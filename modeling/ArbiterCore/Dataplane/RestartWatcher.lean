-- SUMMARY: The watcher that finds restarts of a ClickHouse server from its uptimes (dataplane/chrestart).
import Mathlib.Data.Int.Order.Basic
import Mathlib.Order.Nat

/-!
# Restarts from uptimes

An uptime has whole seconds, so the start that a probe computes is up to a second after
the real one. The invariant ties the watcher's baseline to the real start of the server
that it was observed on, until the server restarts.
-/

namespace ArbiterCore.Chrestart

/-- Times are in nanoseconds since the zero Time. -/
def second : Int := 1000000000

def defaultRestartSkew : Int := 5 * second

/-- The start of the server that an uptime gives. -/
def startedAt (now : Int) (uptime : Nat) : Int := now - uptime * second

/-- The variables of Run. A zero `previous` is no baseline. -/
structure Watcher where
  skew : Int
  previous : Int
  lastUptime : Nat
  probed : Bool

def Watcher.begin (skew baseline : Int) : Watcher :=
  ⟨if skew ≤ 0 then defaultRestartSkew else skew, baseline, 0, false⟩

namespace Watcher

/-- Whether a successful probe reports a restart. -/
def restarted (w : Watcher) (now : Int) (uptime : Nat) : Bool :=
  w.previous ≠ 0 ∧
    (w.previous + w.skew < startedAt now uptime ∨ w.probed = true ∧ uptime < w.lastUptime)

/-- Whether a successful probe gives a new baseline. -/
def moves (w : Watcher) (now : Int) (uptime : Nat) : Bool :=
  w.restarted now uptime ∨ w.previous = 0 ∨ startedAt now uptime < w.previous

def probe (w : Watcher) (now : Int) (uptime : Nat) : Watcher :=
  { w with
    previous := if w.moves now uptime then startedAt now uptime else w.previous
    lastUptime := uptime
    probed := true }

end Watcher

/-! ## The server and its watcher -/

/-- The real time and server, with what the watcher does not know: how often the server
    has restarted, how often it had when the baseline was observed, and the answer of the
    last successful probe. -/
structure World where
  now : Int
  start : Int
  restarts : Nat
  observed : Nat
  answered : Option Nat
  watcher : Watcher

inductive Event where
  | wait (d : Nat)
  | restart
  /-- A turn of the loop, whose query may fail. It takes no time here: the source reads
      the time before the query, so a slow query gives an earlier start. -/
  | probe (failed : Bool)

namespace World

/-- Whole seconds since the real start. -/
def uptime (w : World) : Nat := ((w.now - w.start) / second).toNat

/-- The start that a successful probe computes now. -/
def current (w : World) : Int := startedAt w.now w.uptime

def reports (w : World) : Bool := w.watcher.restarted w.now w.uptime

def step (w : World) : Event → World
  | .wait d => { w with now := w.now + d }
  | .restart => { w with start := w.now, restarts := w.restarts + 1 }
  | .probe true => w
  | .probe false =>
    { w with
      watcher := w.watcher.probe w.now w.uptime
      answered := some w.uptime
      observed := if w.watcher.moves w.now w.uptime then w.restarts else w.observed }

/-- The time at which the caller takes the baseline: none, or the answer of StartedAt. -/
structure Initial (skew : Int) (w : World) : Prop where
  started : w.start ≤ w.now
  observed : w.observed = w.restarts
  answered : w.answered = none
  watcher : w.watcher = .begin skew 0 ∨ w.watcher = .begin skew w.current

theorem current_bounds {w : World} (h : w.start ≤ w.now) :
    w.start ≤ w.current ∧ w.current < w.start + second := by
  unfold current startedAt uptime second
  omega

theorem uptime_mono {w w' : World} (hstart : w'.start = w.start) (hnow : w.now ≤ w'.now) :
    w.uptime ≤ w'.uptime := by
  unfold uptime second
  rw [hstart]
  omega

structure Inv (skew : Int) (w : World) : Prop where
  skew : w.watcher.skew = skew
  started : w.start ≤ w.now
  observed : w.observed ≤ w.restarts
  /-- The baseline is a start computed on the server it was observed on. -/
  baseline : w.watcher.previous ≠ 0 → w.observed = w.restarts →
    w.start ≤ w.watcher.previous ∧ w.watcher.previous < w.start + second
  answered : w.answered = if w.watcher.probed then some w.watcher.lastUptime else none
  /-- Without a restart since the baseline, uptimes have not fallen. -/
  grows : w.observed = w.restarts → ∀ u ∈ w.answered, u ≤ w.uptime

variable {skew : Int} {w w' : World}

theorem Initial.inv (hskew : second ≤ skew) (h : Initial skew w) : Inv skew w := by
  have hpos : ¬ skew ≤ 0 := by
    unfold second at hskew
    omega
  have hb := current_bounds h.started
  obtain ⟨hstarted, hobserved, hanswered, hw | hw⟩ := h
  · exact ⟨by simp [hw, Watcher.begin, hpos], hstarted, hobserved.le, by simp [hw, Watcher.begin],
      by simp [hw, Watcher.begin, hanswered], by simp [hanswered]⟩
  · exact ⟨by simp [hw, Watcher.begin, hpos], hstarted, hobserved.le, by simpa [hw, Watcher.begin] using fun _ _ => hb,
      by simp [hw, Watcher.begin, hanswered], by simp [hanswered]⟩

/-- Without a restart since the baseline was observed nothing is reported: both starts
    are within a second after the real one, and uptimes grow. -/
theorem Inv.no_report (h : Inv skew w) (hskew : second ≤ skew) (hsame : w.observed = w.restarts) :
    w.reports = false := by
  by_contra hreport
  simp only [reports, Watcher.restarted, h.skew, Bool.not_eq_false, decide_eq_true_eq] at hreport
  obtain ⟨hprevious, hlater | ⟨hprobed, hfell⟩⟩ := hreport
  · have hb := h.baseline hprevious hsame
    have hc := current_bounds h.started
    unfold current at hc
    omega
  · have hanswered := h.answered
    rw [if_pos hprobed] at hanswered
    have hgrows := h.grows hsame _ (by rw [hanswered]; rfl)
    omega

theorem Inv.step (h : Inv skew w) : ∀ e, Inv skew (w.step e)
  | .wait d => by
    have hstarted := h.started
    refine { h with started := ?_, grows := fun hsame u hu => ?_ }
    · simp only [World.step]
      omega
    · exact (h.grows hsame u hu).trans (uptime_mono rfl (by simp only [World.step]; omega))
  | .restart =>
    -- the baseline is now of an earlier server
    have hobserved := h.observed
    have hne : w.observed ≠ w.restarts + 1 := by omega
    { h with
      started := Int.le_refl _
      observed := Nat.le_succ_of_le hobserved
      baseline := fun _ hsame => absurd hsame hne
      grows := fun hsame => absurd hsame hne }
  | .probe true => h
  | .probe false => by
    have hb := current_bounds h.started
    refine ⟨h.skew, h.started, ?_, ?_, rfl, fun _ u hu => ?_⟩
    · simp only [World.step]
      split
      · exact Nat.le_refl _
      · exact h.observed
    · simp only [World.step, Watcher.probe]
      split
      · exact fun _ _ => hb
      · exact h.baseline
    · exact (Option.some.inj hu).ge

theorem Inv.run (h : Inv skew w) (es : List Event) : Inv skew (es.foldl World.step w) := by
  induction es generalizing w with
  | nil => exact h
  | cons e es ih => exact ih (h.step e)

/-- What the next successful probe reports, after any run. A restart is reported only if
    the server restarted since the baseline was observed. It is reported if the real start
    is more than the skew after the baseline, or the uptime fell below the last answer.
    If nothing is reported, the computed start is at most the skew after the baseline. -/
theorem reports_restarts (hskew : second ≤ skew) {w₀ : World} (hinit : Initial skew w₀) (es : List Event)
    (hrun : es.foldl step w₀ = w) :
    (w.reports = true → w.observed < w.restarts) ∧
    (w.watcher.previous ≠ 0 →
      (w.watcher.previous + skew < w.start ∨ ∃ u ∈ w.answered, w.uptime < u) → w.reports = true) ∧
    (w.reports = false → (w.watcher.previous ≠ 0 → w.current ≤ w.watcher.previous + skew) ∧
      w.current ≤ (w.step (.probe false)).watcher.previous + skew) := by
  have h : Inv skew w := hrun ▸ (hinit.inv hskew).run es
  have hb := current_bounds h.started
  have hpos : (0 : Int) < second := by decide
  refine ⟨fun hreport => ?_, fun hprevious hmoved => ?_, fun hquiet => ?_⟩
  · by_contra hsame
    have hobserved := h.observed
    rw [h.no_report hskew (by omega)] at hreport
    cases hreport
  · simp only [reports, Watcher.restarted, h.skew, decide_eq_true_eq]
    refine ⟨hprevious, hmoved.imp (fun hlater => ?_) fun ⟨u, hu, hfell⟩ => ?_⟩
    · exact Int.lt_of_lt_of_le hlater hb.1
    · rw [h.answered] at hu
      split at hu
      · next hprobed =>
        cases hu
        exact ⟨hprobed, hfell⟩
      · cases hu
  · have hwithin : w.watcher.previous ≠ 0 → w.current ≤ w.watcher.previous + skew := by
      intro hprevious
      simp only [reports, Watcher.restarted, h.skew, decide_eq_false_iff_not, not_and, not_or, Int.not_lt] at hquiet
      exact (hquiet hprevious).1
    refine ⟨hwithin, ?_⟩
    simp only [World.step, Watcher.probe]
    split
    · unfold current
      omega
    · next hstays =>
      refine hwithin fun hzero => hstays ?_
      simp [Watcher.moves, hzero]

/-- A baseline taken two seconds and a half after the start of the server. -/
def fresh : World := ⟨7 * second / 2, second, 0, 0, none, .begin (2 * second) (3 * second / 2)⟩

theorem reports_restarts_after_twelve_seconds :
    let w := [.wait 12000000000, .restart, .probe true, .wait 1500000000].foldl step fresh
    w.reports = true ∧ w.observed < w.restarts :=
  ⟨by decide, (reports_restarts (by decide : second ≤ 2 * second)
    ⟨by decide, rfl, rfl, .inr rfl⟩ _ rfl).1 (by decide)⟩

end World

end ArbiterCore.Chrestart
