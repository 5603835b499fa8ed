-- SUMMARY: The manifest follower of a member never accepts an unverified or receding manifest (manifestfeed).
import ArbiterCore.Base.Threads
import ArbiterCore.Member.Manifest

/-!
# The manifest feed

The follower reads the safe watermark, fetches the manifest it names through a
bounded cache of verified manifests, and walks the parents back to the last
accepted manifest. The source of the answers is adversarial. Other readers use
the cache at the same time. An update is accepted once the callback that applies
it has succeeded.
-/

namespace ArbiterCore.Feed

open Conc

/-! ## The store -/

/-- A bounded cache of manifests, most recently used first. -/
structure Store where
  entries : Nat
  order : List String
  cache : GoMap String SafeSnapshotManifest

namespace Store

/-- `NewStore`: 16 entries when none are given. -/
def new (entries : Nat) : Store := ⟨if entries = 0 then 16 else entries, [], .empty⟩

variable (s : Store) (id : String)

def moveToFront : Store := { s with order := id :: s.order.erase id }

def lookup : Option SafeSnapshotManifest × Store :=
  if id ∈ s.order then (some (s.cache.getD id .zero), s.moveToFront id) else (none, s)

/-- Removes the least recently used manifests beyond the bound. -/
def evict : Store :=
  { s with
    order := s.order.take s.entries
    cache := (s.order.drop s.entries).foldl GoMap.erase s.cache }

def insert (m : SafeSnapshotManifest) : Store :=
  if id ∈ s.order then s.moveToFront id
  else evict { s with order := id :: s.order, cache := s.cache.insert id m }

end Store

/-! ## The world of the follower -/

structure SafeWatermark where
  snapshotID : String
  manifestRoot : String
  deriving DecidableEq

/-- One accepted watermark manifest, demultiplexed per owner. -/
structure Update where
  snapshotID : String
  parentSnapshotID : String
  safeBlockSeq : Nat
  manifest : SafeSnapshotManifest
  entries : GoMap Nat TrackFrontier
  changed : List Nat
  fullFetch : Bool
  walked : Nat

/-- An update that was handed to the callback, with what had been accepted before,
    the watermark that the source had answered, and whether the callback succeeded. -/
structure Handed where
  last : String
  lastEntries : GoMap Nat TrackFrontier
  watermark : Option SafeWatermark
  update : Update
  applied : Bool

/-- `watermark` (the last answer) and `handed` are histories that no code reads. -/
structure FeedWorld where
  store : Store
  last : String
  lastEntries : GoMap Nat TrackFrontier
  watermark : Option SafeWatermark
  handed : List Handed

inductive FeedOp : Type → Type where
  | getSafeWatermark : FeedOp (Except FeedError SafeWatermark)
  | getManifest (id : String) : FeedOp (Except FeedError SafeSnapshotManifest)
  | lookup (id : String) : FeedOp (Option SafeSnapshotManifest)
  | insert (id : String) (m : SafeSnapshotManifest) : FeedOp Unit
  /-- Reads what was accepted last. -/
  | accepted : FeedOp (String × GoMap Nat TrackFrontier)
  | onUpdate (u : Update) : FeedOp (Except FeedError Unit)
  | accept (u : Update) : FeedOp Unit

/-- The operation asks the source for a manifest. -/
def FeedOp.fetches : (δ : Type) → FeedOp δ → Bool
  | _, .getManifest _ => true
  | _, _ => false

/-- What the source and the callback answer. -/
inductive FeedAnswer where
  | watermark (r : Except FeedError SafeWatermark)
  | manifest (r : Except FeedError SafeSnapshotManifest)
  | callback (r : Except FeedError Unit)
  | here

def FeedOp.run : {β : Type} → FeedOp β → FeedAnswer → FeedWorld → Option (β × FeedWorld)
  | _, .getSafeWatermark, .watermark (.ok wm), w =>
    some (.ok wm, { w with watermark := some wm })
  | _, .getSafeWatermark, .watermark (.error e), w => some (.error e, w)
  | _, .getManifest _, .manifest r, w => some (r, w)
  | _, .lookup id, .here, w =>
    some ((w.store.lookup id).1, { w with store := (w.store.lookup id).2 })
  | _, .insert id m, .here, w => some ((), { w with store := w.store.insert id m })
  | _, .accepted, .here, w => some ((w.last, w.lastEntries), w)
  | _, .onUpdate u, .callback r, w =>
    some (r, { w with handed := w.handed ++ [⟨w.last, w.lastEntries, w.watermark, u, r.isOk⟩] })
  | _, .accept u, .here, w =>
    some ((), { w with last := u.snapshotID, lastEntries := u.entries })
  | _, _, _, _ => none

def feedMachine : Machine FeedOp FeedWorld := ⟨FeedAnswer, FeedOp.run⟩

abbrev FeedM (α : Type) : Type 1 := Fallible FeedError FeedOp α

/-! ## The follower -/

section

variable [Replay]

/-- The verified manifest of an id, from the cache or the source. -/
def getSafeSnapshot (id : String) : FeedM SafeSnapshotManifest := do
  if id = "" then throw ⟨false, "manifestfeed: empty snapshot id"⟩
  else
    match ← (ask (.lookup id) : FeedM _) with
    | some m => return m
    | none => do
      let m ← mapError (.wrap s!"manifestfeed: fetch manifest {id}") (call (.getManifest id))
      fromExcept (verify id m)
      ask (.insert id m)
      return m

/-- Follows the parents of `cur` back to `last`, with `left` fetches to go. Returns
    the number of hops, and whether the walk gave up. -/
def walk (maxWalk : Nat) (w : SafeSnapshotManifest) (last : String) :
    Nat → SafeSnapshotManifest → FeedM (Nat × Bool)
  | left, cur =>
    let hops := maxWalk - left
    let parent := cur.parentSnapshotID
    if parent = last then return (hops, false)
    else if parent = "" then
      throw (.refuse s!"manifestfeed: watermark {w.snapshotID} does not descend from the last accepted manifest {last}")
    else
      match left with
      | 0 => return (hops, true)
      | left + 1 => do
        let next ← getSafeSnapshot parent
        walk maxWalk w last left next

/-- The entries of every owner of a manifest. -/
def entriesOf (m : SafeSnapshotManifest) : GoMap Nat TrackFrontier :=
  m.trackFrontiers.foldl (fun es tf => es.insert tf.indexerID (Replay.ownerEntry m tf.indexerID).1) .empty

/-- The least owner whose entry went back. -/
def wentBack (lastEntries entries : GoMap Nat TrackFrontier) : Option Nat :=
  (lastEntries.keys.insertionSort (· ≤ ·)).find? fun owner =>
    ¬ (lastEntries.getD owner .zero).le (entries.getD owner .zero)

/-- The owners whose entry differs from the last accepted one. -/
def changedOwners (lastEntries entries : GoMap Nat TrackFrontier) : List Nat :=
  (entries.keys.insertionSort (· ≤ ·)).filter fun owner =>
    lastEntries.lookup owner ≠ some (entries.getD owner .zero)

/-- The walk of a manifest back to the last accepted one; the first manifest is
    accepted alone. -/
def descent (maxWalk : Nat) (m : SafeSnapshotManifest) (last : String) : FeedM (Nat × Bool) :=
  if last = "" then pure (0, true) else walk maxWalk m last (maxWalk - 1) m

/-- The update of a manifest, if no owner's entry goes back. -/
def updateOf (lastEntries : GoMap Nat TrackFrontier) (m : SafeSnapshotManifest)
    (descended : Nat × Bool) : Except FeedError Update :=
  let entries := entriesOf m
  match wentBack lastEntries entries with
  | some owner =>
    let was := lastEntries.getD owner .zero
    let now := entries.getD owner .zero
    .error (.refuse s!"manifestfeed: owner {owner} entry went back from ({was.safeBlockSeq}, {
      was.appliedPromotionSeq}) to ({now.safeBlockSeq}, {now.appliedPromotionSeq}) in manifest {m.snapshotID}")
  | none => .ok ⟨m.snapshotID, m.parentSnapshotID, m.safeBlockSeq, m, entries,
      changedOwners lastEntries entries, descended.2, descended.1⟩

/-- The update that the watermark names, if it moved. -/
def compute (maxWalk : Nat) (last : String) (lastEntries : GoMap Nat TrackFrontier) :
    FeedM (Option Update) := do
  let wm ← mapError (.wrap "manifestfeed: read the safe watermark") (call .getSafeWatermark)
  if wm.snapshotID = "" ∨ wm.snapshotID = last then return none
  else do
    let m ← getSafeSnapshot wm.snapshotID
    if wm.manifestRoot ≠ m.manifestRoot then
      throw (.refuse s!"manifestfeed: watermark names manifest_root {wm.manifestRoot}, manifest {m.snapshotID} has {
        m.manifestRoot}")
    else if m.trackFrontiers = [] then
      throw (.refuse s!"manifestfeed: manifest {m.snapshotID} carries no track_frontiers")
    else do
      let descended ← descent maxWalk m last
      let u ← fromExcept (updateOf lastEntries m descended)
      return some u

/-- One poll: hands the update to the callback, and accepts it once that succeeds. -/
def step (maxWalk : Nat) : FeedM Unit := do
  let (last, lastEntries) ← ask .accepted
  match ← compute maxWalk last lastEntries with
  | none => pure ()
  | some u => do
    call (.onUpdate u)
    ask (.accept u)

/-! ## The system -/

/-- The follower polls in one slot, and any number of readers use the store. -/
inductive Slot where
  | follower
  | reader (n : Nat)
  deriving DecidableEq

inductive Reply where
  | polled
  | read (m : SafeSnapshotManifest)

def feedSystem (maxWalk : Nat) : System FeedOp FeedWorld Slot (Except FeedError Reply) where
  machine := feedMachine
  start i _ p :=
    match i with
    | .follower => p = (do step maxWalk; return .polled : FeedM Reply).run
    | .reader _ => ∃ id, p = (do return .read (← getSafeSnapshot id) : FeedM Reply).run
  env _ _ := False
  crash w := w

/-- A follower that has accepted `last` with `lastEntries`, and an empty store. -/
def Started (last : String) (lastEntries : GoMap Nat TrackFrontier) (w : FeedWorld) : Prop :=
  ∃ entries, w = ⟨.new entries, last, lastEntries, none, []⟩

/-! ## Fetches -/

theorem getSafeSnapshot_fetches (id : String) : Costs FeedOp.fetches (getSafeSnapshot id) 1 := by
  unfold getSafeSnapshot
  split
  · exact costs_throw
  refine costs_bind_free (costs_ask rfl) fun found => ?_
  cases found with
  | some m => exact costs_pure
  | none =>
    refine costs_bind (n := 0) (costs_mapError costs_call) fun m => ?_
    refine costs_bind_free costs_fromExcept fun _ => ?_
    exact costs_bind_free (costs_ask rfl) fun _ => costs_pure

theorem walk_fetches (maxWalk : Nat) (w : SafeSnapshotManifest) (last : String) (left : Nat)
    (cur : SafeSnapshotManifest) : Costs FeedOp.fetches (walk maxWalk w last left cur) left := by
  induction left generalizing cur with
  | zero =>
    unfold walk
    dsimp only
    split
    · exact costs_pure
    · split
      · exact costs_throw
      · exact costs_pure
  | succ left ih =>
    unfold walk
    dsimp only
    split
    · exact costs_pure
    split
    · exact costs_throw
    · rw [Nat.add_comm]
      exact costs_bind (getSafeSnapshot_fetches _) fun next => ih next

variable {maxWalk : Nat}

/-- One computation of an update fetches at most `maxWalk` manifests. -/
theorem compute_fetches (hwalk : 1 ≤ maxWalk) (last : String)
    (lastEntries : GoMap Nat TrackFrontier) :
    Costs FeedOp.fetches (compute maxWalk last lastEntries) maxWalk := by
  unfold compute
  refine costs_bind_free (costs_mapError (costs_free rfl)) fun wm => ?_
  split
  · exact costs_pure
  obtain ⟨left, rfl⟩ := Nat.exists_eq_add_of_le hwalk
  refine costs_bind (getSafeSnapshot_fetches _) fun m => ?_
  split
  · exact costs_throw
  split
  · exact costs_throw
  refine costs_bind (n := 0) ?_ fun _ => costs_bind_free costs_fromExcept fun _ => costs_pure
  unfold descent
  split
  · exact costs_pure
  · rw [Nat.add_sub_cancel_left]
    exact walk_fetches ..

/-! ## Descent -/

/-- The manifest `last` is `n` parents back, through verified manifests. -/
inductive Descends (last : String) : Nat → SafeSnapshotManifest → Prop where
  | parent {m : SafeSnapshotManifest} (h : m.parentSnapshotID = last) : Descends last 1 m
  | step {n : Nat} {m p : SafeSnapshotManifest} (hp : verify m.parentSnapshotID p = .ok ())
      (h : Descends last n p) : Descends last (n + 1) m

/-- What holds of an update that is handed to the callback. -/
structure Sound (maxWalk : Nat) (h : Handed) : Prop where
  named : h.watermark = some ⟨h.update.snapshotID, h.update.manifest.manifestRoot⟩
  verified : verify h.update.snapshotID h.update.manifest = .ok ()
  frontiers : h.update.manifest.trackFrontiers ≠ []
  descends : h.update.fullFetch = false → ∃ n ≤ maxWalk, Descends h.last n h.update.manifest
  forward : ∀ owner ∈ h.lastEntries.keys,
    (h.lastEntries.getD owner .zero).le (h.update.entries.getD owner .zero)

variable {m : SafeSnapshotManifest}

/-- An update that is computed takes no owner back. -/
theorem updateOf_ok {lastEntries : GoMap Nat TrackFrontier} {descended : Nat × Bool} {u : Update}
    (h : updateOf lastEntries m descended = .ok u) :
    u.manifest = m ∧ u.snapshotID = m.snapshotID ∧ u.fullFetch = descended.2 ∧
      ∀ owner ∈ lastEntries.keys,
        (lastEntries.getD owner .zero).le (u.entries.getD owner .zero) := by
  unfold updateOf at h
  dsimp only at h
  split at h
  · cases h
  next hback =>
  cases h
  refine ⟨rfl, rfl, rfl, fun owner howner => ?_⟩
  have hmem : owner ∈ lastEntries.keys.insertionSort (· ≤ ·) := (List.mem_insertionSort _).mpr howner
  simpa using List.find?_eq_none.mp hback owner hmem

/-! ## The cache holds verified manifests -/

structure StoreInv (s : Store) : Prop where
  nodup : s.order.Nodup
  verified : ∀ id ∈ s.order, ∃ m, s.cache.lookup id = some m ∧ verify id m = .ok ()

theorem storeInv_new (entries : Nat) : StoreInv (.new entries) := ⟨List.nodup_nil, nofun⟩

theorem StoreInv.moveToFront {s : Store} {id : String} (h : StoreInv s) (hid : id ∈ s.order) :
    StoreInv (s.moveToFront id) where
  nodup := List.nodup_cons.mpr ⟨h.nodup.not_mem_erase, h.nodup.erase id⟩
  verified x hx := by
    apply h.verified
    rcases List.mem_cons.mp hx with rfl | hx
    · exact hid
    · exact List.mem_of_mem_erase hx

theorem StoreInv.lookup {s : Store} (h : StoreInv s) (id : String) :
    StoreInv (s.lookup id).2 ∧ ∀ m, (s.lookup id).1 = some m → verify id m = .ok () := by
  unfold Store.lookup
  split
  · next hid =>
    refine ⟨h.moveToFront hid, fun m hm => ?_⟩
    obtain ⟨m', hm', hv⟩ := h.verified id hid
    cases hm
    rwa [GoMap.getD_of_lookup_some hm']
  · exact ⟨h, nofun⟩

theorem StoreInv.evict {s : Store} (h : StoreInv s) : StoreInv s.evict where
  nodup := h.nodup.sublist (List.take_sublist ..)
  verified id hid := by
    obtain ⟨m, hm, hv⟩ := h.verified id (List.mem_of_mem_take hid)
    refine ⟨m, ?_, hv⟩
    have hnot : id ∉ s.order.drop s.entries :=
      fun hdrop => List.disjoint_take_drop h.nodup (Nat.le_refl _) hid hdrop
    simpa only [Store.evict, GoMap.lookup_foldl_erase, if_neg hnot] using hm

theorem StoreInv.insert {s : Store} {id : String} (h : StoreInv s) (hv : verify id m = .ok ()) :
    StoreInv (s.insert id m) := by
  unfold Store.insert
  split
  · next hid => exact h.moveToFront hid
  next hid =>
  apply StoreInv.evict
  refine ⟨List.nodup_cons.mpr ⟨hid, h.nodup⟩, fun x hx => ?_⟩
  simp only [GoMap.lookup_insert]
  split
  · next hxid => exact ⟨m, rfl, hxid ▸ hv⟩
  · next hxid => exact h.verified x ((List.mem_cons.mp hx).resolve_left hxid)

/-! ## Contracts -/

/-- What one operation of the follower or of a reader does; only the follower, for
    which `mine` holds, moves what was accepted. -/
inductive FeedStep (maxWalk : Nat) (mine : Prop) (w : FeedWorld) : FeedWorld → Prop where
  | store {s : Store} (h : StoreInv w.store → StoreInv s) :
      FeedStep maxWalk mine w { w with store := s }
  | watermark (hmine : mine) (wm : SafeWatermark) :
      FeedStep maxWalk mine w { w with watermark := some wm }
  | offer (hmine : mine) {h : Handed} (hs : Sound maxWalk h) :
      FeedStep maxWalk mine w { w with handed := w.handed ++ [h] }
  | accept (hmine : mine) {u : Update}
      (h : w.handed.getLast? = some ⟨w.last, w.lastEntries, w.watermark, u, true⟩) :
      FeedStep maxWalk mine w { w with last := u.snapshotID, lastEntries := u.entries }

variable {mine : Prop} {w : FeedWorld}

theorem FeedStep.idle : FeedStep maxWalk mine w w :=
  .store fun h => h

/-- What the others do: they leave everything but the store alone, unless the
    follower is one of them. -/
structure FeedRely (mine : Prop) (w w' : FeedWorld) : Prop where
  store : StoreInv w.store → StoreInv w'.store
  alone : mine → w'.last = w.last ∧ w'.lastEntries = w.lastEntries ∧
    w'.watermark = w.watermark ∧ w'.handed = w.handed

def feedContract (maxWalk : Nat) (mine : Prop) : Contract FeedWorld :=
  ⟨FeedRely mine, FeedStep maxWalk mine⟩

variable {w' : FeedWorld}

theorem FeedStep.storeInv (hs : FeedStep maxWalk mine w w') (h : StoreInv w.store) : StoreInv w'.store := by
  cases hs with
  | store hstore => exact hstore h
  | watermark | offer | accept => exact h

theorem feedContract_keeps : (feedContract maxWalk mine).Keeps (fun w => StoreInv w.store) :=
  ⟨fun _ _ hr h => hr.store h, fun _ _ hg h => hg.storeInv h⟩

/-- A program of the follower (`mine`) or of a reader meets its contract. -/
def feedSafe (maxWalk : Nat) (mine : Prop) {α : Type} (p : FeedM α) (Q : α → FeedWorld → Prop)
    (w : FeedWorld) : Prop :=
  wpI feedMachine (feedContract maxWalk mine) (fun w => StoreInv w.store) p Q w

/-- A program that meets its contract keeps it when its value is wrapped. -/
theorem feedSafe.run {α β : Type} {p : FeedM α} {Q : α → FeedWorld → Prop}
    (h : feedSafe maxWalk mine p Q w) (hstore : StoreInv w.store) (f : α → β) :
    wp feedMachine (feedContract maxWalk mine) (do return f (← p) : FeedM β).run (fun _ _ => True) w := by
  have hsafe := wpI_bind (Q := fun _ _ => True) (h.mono fun a _ _ _ => wpI_pure (a := f a) trivial)
  exact wp.mono (hsafe hstore) fun _ _ _ => trivial

section Handlers

variable {maxWalk : Nat} {mine : Prop} {w : FeedWorld} {F : FeedWorld → Prop}

/-- The manifest that a reader or the follower gets is verified. `F` is what the
    program knows; it does not depend on the store. -/
theorem getSafeSnapshot_safe (hF : ∀ w w', FeedRely mine w w' → F w → F w')
    (hstore : ∀ (w : FeedWorld) s, F w → F { w with store := s }) (id : String) (h : F w) :
    feedSafe maxWalk mine (getSafeSnapshot id) (fun m w' => verify id m = .ok () ∧ F w') w := by
  unfold getSafeSnapshot
  split
  · exact wpI_throw
  refine wpI_bind (wpI_ask feedContract_keeps fun w₁ hr hI found w₂ ⟨a, ha⟩ => ?_)
  have hF₁ := hF w w₁ hr h
  cases a with
  | here =>
    cases ha
    obtain ⟨hinv, hfound⟩ := hI.lookup id
    refine ⟨.store fun _ => hinv, ?_⟩
    cases hl : (w₁.store.lookup id).1 with
    | some m => exact wpI_pure ⟨hfound m hl, hstore _ _ hF₁⟩
    | none =>
      have hF₂ := hstore w₁ (w₁.store.lookup id).2 hF₁
      refine wpI_bind (wpI_mapError (wpI_call feedContract_keeps fun w₃ hr₃ _ res w₄ ⟨a, ha⟩ => ?_))
      have hF₃ := hF _ w₃ hr₃ hF₂
      cases a with
      | manifest answer =>
        cases ha
        refine ⟨.idle, fun m _ => ?_⟩
        refine wpI_bind (wpI_fromExcept fun _ hv => ?_)
        refine wpI_bind (wpI_ask feedContract_keeps fun w₅ hr₅ _ _ w₆ ⟨a, ha⟩ => ?_)
        cases a with
        | here =>
          cases ha
          refine ⟨.store fun hinv => hinv.insert hv, wpI_pure ⟨hv, hstore _ _ (hF _ _ hr₅ hF₃)⟩⟩
        | _ => cases ha
      | _ => cases ha
  | _ => cases ha

/-- A walk that reaches `last` went along verified parents. -/
theorem walk_safe (hF : ∀ w w', FeedRely mine w w' → F w → F w')
    (hstore : ∀ (w : FeedWorld) s, F w → F { w with store := s }) {top : SafeSnapshotManifest}
    {last : String} (left : Nat) (cur : SafeSnapshotManifest) (h : F w) :
    feedSafe maxWalk mine (walk maxWalk top last left cur)
      (fun res w' => (res.2 = false → ∃ n ≤ left + 1, Descends last n cur) ∧ F w') w := by
  induction left generalizing cur w with
  | zero =>
    unfold walk
    dsimp only
    split
    · next hparent => exact wpI_pure ⟨fun _ => ⟨1, Nat.le_refl _, .parent hparent⟩, h⟩
    · split
      · exact wpI_throw
      · exact wpI_pure ⟨nofun, h⟩
  | succ left ih =>
    unfold walk
    dsimp only
    split
    · next hparent => exact wpI_pure ⟨fun _ => ⟨1, by omega, .parent hparent⟩, h⟩
    split
    · exact wpI_throw
    refine (getSafeSnapshot_safe hF hstore _ h).bind fun next w₁ _ ⟨hv, h₁⟩ => ?_
    refine (ih next h₁).mono fun res w₂ _ ⟨hdesc, h₂⟩ => ⟨fun hfull => ?_, h₂⟩
    obtain ⟨n, hn, hd⟩ := hdesc hfull
    exact ⟨n + 1, by omega, .step hv hd⟩

/-- What the follower knows during a poll: what it accepted last, and the watermark
    that the source answered. -/
structure Polling (last : String) (lastEntries : GoMap Nat TrackFrontier)
    (wm : Option SafeWatermark) (w : FeedWorld) : Prop where
  last : w.last = last
  lastEntries : w.lastEntries = lastEntries
  watermark : w.watermark = wm

section Polling

variable {last : String} {lastEntries : GoMap Nat TrackFrontier} {wm : Option SafeWatermark}

theorem Polling.rely (hr : FeedRely True w w') (h : Polling last lastEntries wm w) :
    Polling last lastEntries wm w' := by
  obtain ⟨hlast, hentries, hwm, -⟩ := hr.alone trivial
  exact ⟨hlast.trans h.last, hentries.trans h.lastEntries, hwm.trans h.watermark⟩

omit [Replay] in
theorem Polling.store (s : Store) (h : Polling last lastEntries wm w) :
    Polling last lastEntries wm { w with store := s } :=
  ⟨h.last, h.lastEntries, h.watermark⟩

theorem descent_safe (hwalk : 1 ≤ maxWalk) (h : Polling last lastEntries wm w) :
    feedSafe maxWalk True (descent maxWalk m last)
      (fun res w' => (res.2 = false → ∃ n ≤ maxWalk, Descends last n m) ∧
        Polling last lastEntries wm w') w := by
  unfold descent
  split
  · exact wpI_pure ⟨nofun, h⟩
  obtain ⟨left, rfl⟩ := Nat.exists_eq_add_of_le hwalk
  simp only [Nat.add_comm 1 left, Nat.add_sub_cancel]
  apply walk_safe (fun _ _ => Polling.rely) (fun _ => Polling.store)
  exact h

/-- A computed update is sound for the watermark that the computation read. -/
theorem compute_safe (hwalk : 1 ≤ maxWalk) (h : Polling last lastEntries wm w) :
    feedSafe maxWalk True (compute maxWalk last lastEntries)
      (fun res w' => ∃ wm, Polling last lastEntries wm w' ∧ ∀ u, res = some u →
        ∀ applied, Sound maxWalk ⟨last, lastEntries, wm, u, applied⟩) w := by
  unfold compute
  refine wpI_bind (wpI_mapError (wpI_call feedContract_keeps fun w₁ hr _ res w₂ ⟨a, ha⟩ => ?_))
  have h₁ := h.rely hr
  cases a with
  | watermark answer =>
    cases answer with
    | error e =>
      cases ha
      exact ⟨.idle, nofun⟩
    | ok wm =>
      cases ha
      refine ⟨.watermark trivial wm, fun wm' hwm => ?_⟩
      cases hwm
      have h₂ : Polling last lastEntries (some wm) { w₁ with watermark := some wm } :=
        ⟨h₁.last, h₁.lastEntries, rfl⟩
      split
      · exact wpI_pure ⟨_, h₂, nofun⟩
      refine (getSafeSnapshot_safe (fun _ _ => Polling.rely) (fun _ => Polling.store)
        _ h₂).bind ?_
      intro m w₃ _ ⟨hv, h₃⟩
      split
      · exact wpI_throw
      next hroot =>
      split
      · exact wpI_throw
      next hfrontiers =>
      refine (descent_safe hwalk h₃).bind fun descended w₄ _ ⟨hdesc, h₄⟩ => ?_
      refine wpI_bind (wpI_fromExcept fun u hu => wpI_pure ⟨_, h₄, ?_⟩)
      intro u' heq applied
      cases heq
      obtain ⟨hman, hid, hfull, hforward⟩ := updateOf_ok hu
      obtain ⟨hmid, -⟩ := verify_ok hv
      exact {
        named := by simp only [hid, hman, hmid, ← not_not.mp hroot]
        verified := by simpa only [hid, hman, hmid] using hv
        frontiers := hman ▸ hfrontiers
        descends := fun h => hman ▸ hdesc (hfull ▸ h)
        forward := hforward }
  | _ => cases ha

end Polling

/-- A poll hands out sound updates only, and accepts one that was applied. -/
theorem step_safe (hwalk : 1 ≤ maxWalk) :
    feedSafe maxWalk True (step maxWalk) (fun _ _ => True) w := by
  unfold step
  refine wpI_bind (wpI_ask feedContract_keeps fun w₁ hr _ found w₂ ⟨a, ha⟩ => ?_)
  cases a with
  | here =>
    cases ha
    refine ⟨.idle, ?_⟩
    refine (compute_safe hwalk ⟨rfl, rfl, rfl⟩).bind fun res w₃ _ ⟨wm, h₃, hsound⟩ => ?_
    cases res with
    | none => exact wpI_pure trivial
    | some u =>
      refine wpI_bind (wpI_call feedContract_keeps fun w₄ hr₄ _ res w₅ ⟨a, ha⟩ => ?_)
      obtain ⟨hlast₄, hentries₄, hwm₄⟩ := h₃.rely hr₄
      cases a with
      | callback answer =>
        cases ha
        refine ⟨.offer trivial ?_, fun _ hok => ?_⟩
        · rw [hlast₄, hentries₄, hwm₄]
          exact hsound u rfl _
        cases hok
        refine wpI_ask feedContract_keeps fun w₆ hr₆ _ _ w₇ ⟨a, ha⟩ => ?_
        obtain ⟨hlast₆, hentries₆, hwm₆, hhanded⟩ := hr₆.alone trivial
        cases a with
        | here =>
          cases ha
          refine ⟨.accept trivial ?_, trivial⟩
          rw [hhanded, hlast₆, hentries₆, hwm₆]
          simp [Except.isOk, Except.toBool]
        | _ => cases ha
      | _ => cases ha
  | _ => cases ha

end Handlers

/-! ## A poll that fails -/

/-- The operation leaves what was accepted alone. -/
def FeedOp.Reads : (δ : Type) → FeedOp δ → Prop
  | _, .accept _ => False
  | _, _ => True

theorem getSafeSnapshot_reads (id : String) : Uses FeedOp.Reads (getSafeSnapshot id) := by
  unfold getSafeSnapshot
  split
  · exact uses_throw
  refine uses_bind (uses_ask trivial) fun found => ?_
  cases found with
  | some m => exact uses_pure
  | none =>
    refine uses_mapStep trivial fun m => ?_
    refine uses_bind uses_fromExcept fun _ => ?_
    exact uses_bind (uses_ask trivial) fun _ => uses_pure

theorem walk_reads (maxWalk : Nat) (w : SafeSnapshotManifest) (last : String) (left : Nat)
    (cur : SafeSnapshotManifest) : Uses FeedOp.Reads (walk maxWalk w last left cur) := by
  induction left generalizing cur with
  | zero =>
    unfold walk
    dsimp only
    split
    · exact uses_pure
    · split
      · exact uses_throw
      · exact uses_pure
  | succ left ih =>
    unfold walk
    dsimp only
    split
    · exact uses_pure
    · split
      · exact uses_throw
      · exact uses_bind (getSafeSnapshot_reads _) fun next => ih next

theorem compute_reads (maxWalk : Nat) (last : String) (lastEntries : GoMap Nat TrackFrontier) :
    Uses FeedOp.Reads (compute maxWalk last lastEntries) := by
  unfold compute
  refine uses_mapStep trivial fun wm => ?_
  split
  · exact uses_pure
  refine uses_bind (getSafeSnapshot_reads _) fun m => ?_
  split
  · exact uses_throw
  split
  · exact uses_throw
  refine uses_bind ?_ fun _ => uses_bind uses_fromExcept fun _ => uses_pure
  unfold descent
  split
  · exact uses_pure
  · exact walk_reads ..

/-- What was accepted is still what `w` has. -/
def SameAccepted (w w' : FeedWorld) : Prop := w'.last = w.last ∧ w'.lastEntries = w.lastEntries

omit [Replay] in
theorem sem_reads {δ : Type} {op : FeedOp δ} {w₀ : FeedWorld} {b : δ} (hop : op.Reads)
    (hs : feedMachine.sem op w b w') (h : SameAccepted w₀ w) : SameAccepted w₀ w' := by
  obtain ⟨a, ha⟩ := hs
  cases op with
  | accept u => exact hop.elim
  | getSafeWatermark =>
    cases a with
    | watermark answer =>
      cases answer with
      | ok wm => cases ha; exact h
      | error e => cases ha; exact h
    | _ => cases ha
  | getManifest id =>
    cases a with
    | manifest answer => cases ha; exact h
    | _ => cases ha
  | onUpdate u =>
    cases a with
    | callback answer => cases ha; exact h
    | _ => cases ha
  | lookup id | insert id m | accepted =>
    cases a with
    | here => cases ha; exact h
    | _ => cases ha

/-- A poll during which the others leave the follower alone and that fails leaves
    what was accepted as it was. -/
theorem step_fails (maxWalk : Nat) (w : FeedWorld) :
    wpE feedMachine ⟨FeedRely True, fun _ _ => True⟩ (step maxWalk) (fun _ _ => True)
      (fun _ w' => SameAccepted w w') w := by
  have hrely : ∀ w₁ w₂, FeedRely True w₁ w₂ → SameAccepted w w₁ → SameAccepted w w₂ := by
    intro w₁ w₂ hr h
    obtain ⟨hlast, hentries, -⟩ := hr.alone trivial
    exact ⟨hlast.trans h.1, hentries.trans h.2⟩
  unfold step
  refine wpE_bind.mpr (wpE_ask.mpr fun w₁ hr found w₂ hs => ⟨trivial, ?_⟩)
  have hfree : FeedOp.Reads _ FeedOp.accepted := trivial
  have h₂ := sem_reads hfree hs (hrely _ _ hr ⟨rfl, rfl⟩)
  refine wpE_bind.mpr ((wp_of_all (compute_reads ..) hrely ?_ h₂).mono ?_)
  · exact fun op w₁ b w₂ hop hs h => ⟨trivial, sem_reads hop hs h⟩
  intro res w₃ h₃
  match res with
  | .error e => exact h₃
  | .ok none => trivial
  | .ok (some u) =>
    refine wpE_bind.mpr (wpE_call.mpr fun w₄ hr₄ r w₅ hs₅ => ⟨trivial, ?_⟩)
    cases r with
    | error e =>
      have hfree : FeedOp.Reads _ (FeedOp.onUpdate u) := trivial
      exact sem_reads hfree hs₅ (hrely _ _ hr₄ h₃)
    | ok _ => exact wpE_ask.mpr fun _ _ _ _ _ => ⟨trivial, trivial⟩

/-! ## Whole runs -/

structure FeedInv (maxWalk : Nat) (w : FeedWorld) : Prop where
  store : StoreInv w.store
  sound : ∀ h ∈ w.handed, Sound maxWalk h

theorem FeedStep.inv (hs : FeedStep maxWalk mine w w') (h : FeedInv maxWalk w) : FeedInv maxWalk w' := by
  refine ⟨hs.storeInv h.store, ?_⟩
  cases hs with
  | offer hmine hs =>
    intro x hx
    rcases List.mem_append.mp hx with hx | hx
    · exact h.sound x hx
    · exact List.mem_singleton.mp hx ▸ hs
  | store | watermark | accept => exact h.sound

/-- A reader moves the store only. -/
theorem FeedStep.reader (hs : FeedStep maxWalk False w w') : FeedRely mine w w' := by
  cases hs with
  | store h => exact ⟨h, fun _ => ⟨rfl, rfl, rfl, rfl⟩⟩
  | watermark hmine | offer hmine | accept hmine => exact hmine.elim

/-- An accepted update takes no owner back. -/
theorem FeedStep.forward (hs : FeedStep maxWalk mine w w') (h : FeedInv maxWalk w) (owner : Nat) :
    (w.lastEntries.getD owner .zero).le (w'.lastEntries.getD owner .zero) := by
  cases hs with
  | accept hmine hlast =>
    have hsound := h.sound _ (List.mem_of_getLast? hlast)
    by_cases howner : owner ∈ w.lastEntries.keys
    · exact hsound.forward owner howner
    · rw [GoMap.getD_of_not_mem_keys howner]
      exact TrackFrontier.zero_le _
  | store | watermark | offer => exact TrackFrontier.le_refl _

theorem FeedStep.accepted (hs : FeedStep maxWalk mine w w') : SameAccepted w w' ∨
      ∃ u, w.handed.getLast? = some ⟨w.last, w.lastEntries, w.watermark, u, true⟩ ∧
        w'.last = u.snapshotID ∧ w'.lastEntries = u.entries := by
  cases hs with
  | accept hmine hlast => exact .inr ⟨_, hlast, rfl, rfl⟩
  | store | watermark | offer => exact .inl ⟨rfl, rfl⟩

def feedOutline {maxWalk : Nat} (hwalk : 1 ≤ maxWalk) : Outline (feedSystem maxWalk) where
  contract i := feedContract maxWalk (i = .follower)
  post _ _ _ := True
  inv := FeedInv maxWalk
  rely_refl i w := ⟨fun h => h, fun _ => ⟨rfl, rfl, rfl, rfl⟩⟩
  rely_trans i w w' w'' h h' := by
    refine ⟨fun hs => h'.store (h.store hs), fun hi => ?_⟩
    obtain ⟨hlast, hentries, hwm, hhanded⟩ := h.alone hi
    obtain ⟨hlast', hentries', hwm', hhanded'⟩ := h'.alone hi
    exact ⟨hlast'.trans hlast, hentries'.trans hentries, hwm'.trans hwm, hhanded'.trans hhanded⟩
  post_stable _ _ _ _ _ _ := trivial
  start_wp i w p hinv hp := by
    cases i with
    | follower =>
      cases hp
      rw [eq_self_iff_true]
      exact (step_safe hwalk).run hinv.store fun _ => Reply.polled
    | reader n =>
      obtain ⟨id, rfl⟩ := hp
      have hget : feedSafe maxWalk (Slot.reader n = .follower) (getSafeSnapshot id) _ w :=
        getSafeSnapshot_safe (F := fun _ => True) (fun _ _ _ _ => trivial) (fun _ _ _ => trivial)
          id trivial
      exact hget.run hinv.store Reply.read
  guar_rely i j hij w w' _ hg := by
    cases i with
    | follower => exact ⟨hg.storeInv, fun hj => absurd hj hij⟩
    | reader n =>
      have hreader : FeedStep maxWalk False w w' := by simpa [feedContract] using hg
      exact hreader.reader
  env_rely _ _ _ _ henv := henv.elim
  guar_inv i w w' hinv hg := FeedStep.inv hg hinv
  env_inv _ _ _ henv := henv.elim
  crash_inv _ hinv := hinv
  leave_rely i j hij w _ := ⟨fun h => h, fun _ => ⟨rfl, rfl, rfl, rfl⟩⟩
  leave_inv _ _ hinv := hinv

/-- Every update that the follower hands out is sound. What was accepted moves only
    when the callback has applied the update that was handed out last, and then no
    entry of an owner goes back, along the whole run. One computation fetches at
    most `maxWalk` manifests, and a poll that fails accepts nothing. -/
theorem follower_safe {maxWalk : Nat} (hwalk : 1 ≤ maxWalk) {last : String}
    {lastEntries : GoMap Nat TrackFrontier}
    {c : Config FeedOp FeedWorld Slot (Except FeedError Reply)}
    (hc : Reach (feedSystem maxWalk) (Started last lastEntries) c) :
    (∀ h ∈ c.world.handed, Sound maxWalk h) ∧
    (∀ c', Step (feedSystem maxWalk) c c' → SameAccepted c.world c'.world ∨
      ∃ u, c.world.handed.getLast? =
          some ⟨c.world.last, c.world.lastEntries, c.world.watermark, u, true⟩ ∧
        c'.world.last = u.snapshotID ∧ c'.world.lastEntries = u.entries) ∧
    (∀ c', Relation.ReflTransGen (Step (feedSystem maxWalk)) c c' → ∀ owner,
      (c.world.lastEntries.getD owner .zero).le (c'.world.lastEntries.getD owner .zero)) ∧
    (∀ last lastEntries, Costs FeedOp.fetches (compute maxWalk last lastEntries) maxWalk) ∧
    (∀ w, wpE feedMachine ⟨FeedRely True, fun _ _ => True⟩ (step maxWalk) (fun _ _ => True)
      (fun _ w' => SameAccepted w w') w) := by
  have ho := hc.outlined (feedOutline hwalk) (by
    rintro w ⟨entries, rfl⟩
    exact ⟨storeInv_new entries, nofun⟩)
  refine ⟨ho.inv.sound, fun c' hs => ?_, fun c' hrun owner => ?_, compute_fetches hwalk, step_fails maxWalk⟩
  · rcases ho.moves hs with heq | ⟨i, hg⟩ | henv | heq | ⟨i, heq⟩
    · exact .inl (heq ▸ ⟨rfl, rfl⟩)
    · exact FeedStep.accepted hg
    · exact henv.elim
    · exact .inl (heq ▸ ⟨rfl, rfl⟩)
    · exact .inl (heq ▸ ⟨rfl, rfl⟩)
  · -- every guarantee takes the entry of the owner forward, and nothing else moves it
    refine (ho.keeps (P := fun w => (c.world.lastEntries.getD owner .zero).le
      (w.lastEntries.getD owner .zero)) ?_ ?_ ?_ ?_ hrun (TrackFrontier.le_refl _)).2
    · exact fun i w w' hinv hg h => h.trans (FeedStep.forward hg hinv owner)
    · exact fun w w' _ henv => henv.elim
    · exact fun w h => h
    · exact fun i w h => h

omit [Replay] in
/-- A poll that accepts a child of the last manifest. -/
theorem follower_safe_accepts_child :
    let _ := exampleReplay
    let w := ⟨.new 2, "m0", GoMap.empty.insert 1 ⟨1, 4, 2⟩, none, []⟩
    let child : SafeSnapshotManifest := ⟨"m1", "m0", "m1", 5, [⟨1, 5, 2⟩], []⟩
    ∃ w', feedMachine.replay (do step 3; return Reply.polled : FeedM Reply).run
        [.here, .watermark (.ok ⟨"m1", "m1"⟩), .here, .manifest (.ok child), .here,
          .callback (.ok ()), .here] w = some (.ret (.ok .polled), w') ∧
      w'.last = "m1" ∧ w'.handed.length = 1 ∧ ∀ h ∈ w'.handed, Sound 3 h := by
  intro _ w child
  let poll := (do step 3; return Reply.polled : FeedM Reply).run
  have hinit : Reach (feedSystem 3) (Started w.last w.lastEntries) (.idle w) := .init w ⟨2, rfl⟩
  have hstart : (feedSystem 3).start .follower w poll := rfl
  obtain ⟨w', hrun, hlast, hlength⟩ : ∃ w', feedMachine.replay poll
      [.here, .watermark (.ok ⟨"m1", "m1"⟩), .here, .manifest (.ok child), .here,
        .callback (.ok ()), .here] w = some (.ret (.ok .polled), w') ∧
      w'.last = "m1" ∧ w'.handed.length = 1 := ⟨_, rfl, rfl, rfl⟩
  exact ⟨w', hrun, hlast, hlength, (follower_safe (by decide) (hinit.runs hstart hrun)).1⟩

end

end ArbiterCore.Feed
