-- SUMMARY: Last-one-wins decoding of protobuf messages, and the messages that it leaves as they are.
import ArbiterCore.Base.ProtoMsg

/-!
# Merging occurrences

`merge` folds the occurrences of a message into what decoding keeps. It is the
identity exactly on the messages in which no occurrence displaces an earlier one,
at any depth: no singular field occurs twice, and no two members of a oneof occur.
-/

namespace Proto

variable {M : Type} (S : Schema M)

def Schema.isList (ty : M) (name : String) : Bool := (S.find ty name).any (·.list)

def Schema.oneof (ty : M) (name : String) : Option String := (S.find ty name).bind (·.oneof)

/-- The fields are members of one oneof. -/
def Schema.sameOneof (ty : M) (n n' : String) : Bool :=
  (S.oneof ty n).isSome && S.oneof ty n = S.oneof ty n'

/-- An occurrence of `n` displaces an earlier one of `n'`. -/
def Schema.displaces (ty : M) (n n' : String) : Bool :=
  !S.isList ty n && (n == n' || S.sameOneof ty n n')

namespace Msg

/-- The occurrences whose names do not meet `p`. -/
def drop (p : String → Bool) : Msg → Msg
  | .nil => .nil
  | .leaf n v rest => if p n then rest.drop p else .leaf n v (rest.drop p)
  | .node n c rest => if p n then rest.drop p else .node n c (rest.drop p)

/-- The content of the field's message, empty if it does not occur. -/
def content (name : String) : Msg → Msg
  | .nil => .nil
  | .leaf _ _ rest => rest.content name
  | .node n c rest => if n = name then c else rest.content name

@[simp] theorem names_drop (p : String → Bool) : ∀ m : Msg, (m.drop p).names = m.names.filter (!p ·)
  | .nil => rfl
  | .leaf n v rest => by
    by_cases hp : p n = true <;> simp [drop, names, hp, names_drop p rest]
  | .node n c rest => by
    by_cases hp : p n = true <;> simp [drop, names, hp, names_drop p rest]

theorem drop_eq_self {p : String → Bool} : ∀ {m : Msg}, (∀ n ∈ m.names, p n = false) → m.drop p = m
  | .nil, _ => rfl
  | .leaf n v rest, h => by
    simp [drop, h n List.mem_cons_self, drop_eq_self fun x hx => h x (.tail _ hx)]
  | .node n c rest, h => by
    simp [drop, h n List.mem_cons_self, drop_eq_self fun x hx => h x (.tail _ hx)]

theorem content_eq_nil {name : String} : ∀ {m : Msg}, name ∉ m.names → m.content name = .nil
  | .nil, _ => rfl
  | .leaf n v rest, h => content_eq_nil (m := rest) fun hmem => h (.tail _ hmem)
  | .node n c rest, h => by
    have hne : n ≠ name := fun e => h (e ▸ List.mem_cons_self)
    simp [content, hne, content_eq_nil fun hmem => h (.tail _ hmem)]

end Msg

/-- Folds the occurrences into those that are kept already. -/
def merge : M → Msg → Msg → Msg
  | _, acc, .nil => acc
  | ty, acc, .leaf n v rest => merge ty (acc.drop (S.displaces ty n) ++ .leaf n v .nil) rest
  | ty, acc, .node n c rest =>
    -- a further occurrence of a message is merged into the earlier one
    let prev := if S.isList ty n then .nil else acc.content n
    let content :=
      match S.kind ty n with
      | .message sub => merge sub prev c
      | _ => c
    merge ty (acc.drop (S.displaces ty n) ++ .node n content .nil) rest

/-- Decoding: the last of the occurrences of the bytes. -/
def unmarshal (ty : M) (b : Bytes) : Option Msg := (parse S b.length ty b).map (merge S ty .nil)

/-! ## Every occurrence -/

/-- The relation holds of every occurrence and what follows it, at every depth. -/
def EveryOcc (R : M → String → Msg → Prop) : M → Msg → Prop
  | _, .nil => True
  | ty, .leaf n _ rest => R ty n rest ∧ EveryOcc R ty rest
  | ty, .node n c rest =>
    R ty n rest ∧ (∀ sub, S.kind ty n = .message sub → EveryOcc R sub c) ∧ EveryOcc R ty rest

/-- No singular field occurs twice. -/
def NoRepeat : M → Msg → Prop := EveryOcc S fun ty n rest => S.isList ty n = true ∨ n ∉ rest.names

/-- No two members of a oneof occur. -/
def OneMember : M → Msg → Prop :=
  EveryOcc S fun ty n rest => ∀ n' ∈ rest.names, S.sameOneof ty n' n = true → n' = n

/-- No occurrence displaces an earlier one. -/
def Strict : M → Msg → Prop :=
  EveryOcc S fun ty n rest => ∀ n' ∈ rest.names, S.displaces ty n' n = false

/-- No occurrence is one of an unknown field. -/
def NoUnknown : Msg → Prop
  | .nil => True
  | .leaf _ v rest => (∀ number p, v ≠ .unknown number p) ∧ NoUnknown rest
  | .node _ c rest => NoUnknown c ∧ NoUnknown rest

variable {S} {ty : M}

namespace EveryOcc

variable {R R' : M → String → Msg → Prop}

theorem mono (h : ∀ ty n rest, R ty n rest → R' ty n rest) : ∀ {m : Msg} {ty : M},
    EveryOcc S R ty m → EveryOcc S R' ty m
  | .nil, _, _ => trivial
  | .leaf _ _ _, _, hm => ⟨h _ _ _ hm.1, mono h hm.2⟩
  | .node _ _ _, _, hm => ⟨h _ _ _ hm.1, fun sub hsub => mono h (hm.2.1 sub hsub), mono h hm.2.2⟩

theorem and : ∀ {m : Msg} {ty : M}, EveryOcc S R ty m → EveryOcc S R' ty m →
    EveryOcc S (fun ty n rest => R ty n rest ∧ R' ty n rest) ty m
  | .nil, _, _, _ => trivial
  | .leaf _ _ _, _, hm, hm' => ⟨⟨hm.1, hm'.1⟩, and hm.2 hm'.2⟩
  | .node _ _ _, _, hm, hm' =>
    ⟨⟨hm.1, hm'.1⟩, fun sub hsub => and (hm.2.1 sub hsub) (hm'.2.1 sub hsub), and hm.2.2 hm'.2.2⟩

theorem names {p : M → String → Prop} : ∀ {m : Msg} {ty : M}, EveryOcc S (fun ty n _ => p ty n) ty m →
    ∀ n ∈ m.names, p ty n
  | .leaf _ _ _, _, hm, _, hn => by
    rcases List.mem_cons.mp hn with rfl | hn
    · exact hm.1
    · exact names hm.2 _ hn
  | .node _ _ _, _, hm, _, hn => by
    rcases List.mem_cons.mp hn with rfl | hn
    · exact hm.1
    · exact names hm.2.2 _ hn

/-- What holds of every occurrence holds in the content of a field. -/
theorem content {sub : M} {name : String} (hsub : S.kind ty name = .message sub) : ∀ {m : Msg},
    EveryOcc S R ty m → EveryOcc S R sub (m.content name)
  | .nil, _ => trivial
  | .leaf _ _ rest, hm => content hsub (m := rest) hm.2
  | .node n c rest, hm => by
    by_cases hn : n = name
    · subst hn
      rw [Msg.content, if_pos rfl]
      exact hm.2.1 sub hsub
    · rw [Msg.content, if_neg hn]
      exact content hsub hm.2.2

end EveryOcc

/-- The members of a oneof are singular. -/
theorem isList_of_sameOneof (hS : S.Valid) {n n' : String} (h : S.sameOneof ty n n' = true) :
    S.isList ty n = false := by
  simp only [Schema.sameOneof, Bool.and_eq_true] at h
  rw [Schema.isList]
  cases hfind : S.find ty n with
  | none => rfl
  | some f =>
    have hone : f.oneof.isSome = true := by simpa [Schema.oneof, hfind] using h.1
    simpa using hS.oneofs ty f (Schema.mem_of_find hfind).1 hone

/-- A message is strict if neither a singular field nor a oneof occurs twice. -/
theorem strict_iff (hS : S.Valid) {m : Msg} : Strict S ty m ↔ NoRepeat S ty m ∧ OneMember S ty m := by
  constructor
  · intro h
    refine ⟨h.mono ?_, h.mono ?_⟩
    · intro ty n rest hfree
      by_cases hlist : S.isList ty n = true
      · exact .inl hlist
      · right
        intro hmem
        simpa [Schema.displaces, hlist] using hfree n hmem
    · intro ty n rest hfree n' hmem hsame
      have hlist := isList_of_sameOneof hS hsame
      simpa [Schema.displaces, hlist, hsame] using hfree n' hmem
  · rintro ⟨hrep, hone⟩
    refine (hrep.and hone).mono ?_
    rintro ty n rest ⟨hrep, hone⟩ n' hmem
    by_cases hne : n' = n
    · subst hne
      simp [Schema.displaces, hrep.resolve_right (not_not_intro hmem)]
    · have hsame : S.sameOneof ty n' n = false := by
        simpa using mt (hone n' hmem) hne
      simp [Schema.displaces, hsame, hne]

theorem oneof_eq_none (h : ∀ f ∈ S.fields ty, f.oneof = none) (n : String) : S.oneof ty n = none := by
  rw [Schema.oneof]
  cases hfind : S.find ty n with
  | none => rfl
  | some f => simpa using h f (Schema.mem_of_find hfind).1

/-- The descriptor of a field that holds messages. -/
theorem Schema.find_of_kind {sub : M} {n : String} (h : S.kind ty n = .message sub) :
    ∃ f ∈ S.fields ty, f.name = n ∧ f.kind = .message sub := by
  rw [Schema.kind] at h
  split at h
  · next f hfind => exact ⟨f, (Schema.mem_of_find hfind).1, (Schema.mem_of_find hfind).2, h⟩
  · cases h

/-- Message types without oneofs, closed under their fields, have no two members of a oneof. -/
theorem oneMember_of_plain {P : M → Prop} (hP : ∀ ty, P ty → ∀ f ∈ S.fields ty, f.oneof = none)
    (hsub : ∀ ty, P ty → ∀ f ∈ S.fields ty, ∀ sub, f.kind = .message sub → P sub) :
    ∀ {m : Msg} {ty : M}, P ty → OneMember S ty m := by
  have hno {ty : M} (n : String) (hty : P ty) := oneof_eq_none (hP ty hty) n
  intro m
  induction m with
  | nil => intro ty _; trivial
  | leaf n v rest ih =>
    intro ty hty
    exact ⟨fun n' _ hsame => by simp [Schema.sameOneof, hno _ hty] at hsame, ih hty⟩
  | node n c rest ihc ih =>
    intro ty hty
    refine ⟨fun n' _ hsame => by simp [Schema.sameOneof, hno _ hty] at hsame, fun sub hkind => ?_, ih hty⟩
    obtain ⟨f, hf, -, hfk⟩ := Schema.find_of_kind hkind
    exact ihc (hsub ty hty f hf sub hfk)

/-- In a message type without oneofs of which one singular field holds any, it is the content of that
    field that matters. -/
theorem oneMember_iff_content {sub : M} {name : String} (hno : ∀ f ∈ S.fields ty, f.oneof = none)
    (hkind : S.kind ty name = .message sub) (hsing : S.isList ty name = false)
    (hother : ∀ f ∈ S.fields ty, f.name ≠ name → ∀ sub', f.kind = .message sub' → ∀ m, OneMember S sub' m) :
    ∀ {m : Msg}, NoRepeat S ty m → (OneMember S ty m ↔ OneMember S sub (m.content name)) := by
  have hfree {n n' : String} : S.sameOneof ty n n' ≠ true := by simp [Schema.sameOneof, oneof_eq_none hno]
  intro m
  induction m with
  | nil => exact fun _ => ⟨fun _ => trivial, fun _ => trivial⟩
  | leaf n v rest ih =>
    intro hrep
    rw [Msg.content, ← ih hrep.2]
    exact ⟨And.right, fun h => ⟨fun _ _ hsame => absurd hsame hfree, h⟩⟩
  | node n c rest ihc ih =>
    intro hrep
    by_cases hn : n = name
    · subst hn
      have hnot : n ∉ rest.names := by simpa [hsing] using hrep.1
      have hrest : OneMember S ty rest := (ih hrep.2.2).mpr (by rw [Msg.content_eq_nil hnot]; trivial)
      rw [Msg.content, if_pos rfl]
      refine ⟨fun h => h.2.1 sub hkind, fun h => ⟨fun _ _ hsame => absurd hsame hfree, ?_, hrest⟩⟩
      intro sub' hsub'
      obtain rfl := Kind.message.inj (hkind.symm.trans hsub')
      exact h
    · rw [Msg.content, if_neg hn, ← ih hrep.2.2]
      refine ⟨fun h => h.2.2, fun h => ⟨fun _ _ hsame => absurd hsame hfree, ?_, h⟩⟩
      intro sub' hsub'
      obtain ⟨f, hf, hname, hfk⟩ := Schema.find_of_kind hsub'
      exact hother f hf (hname ▸ hn) sub' hfk c

theorem eq_nil_of_names : ∀ {m : Msg}, m.names = [] → m = .nil
  | .nil, _ => rfl

/-- In a message type whose fields are all members of one oneof, one of them occurs. -/
theorem oneMember_iff_single {o : String} (hone : ∀ f ∈ S.fields ty, f.oneof = some o) {m : Msg}
    (hrep : NoRepeat S ty m)
    (hfields : EveryOcc S (fun ty name _ => (S.find ty name).isSome = true) ty m) (hS : S.Valid) : OneMember S ty m ↔
      m.names.length ≤ 1 ∧ ∀ name sub, S.kind ty name = .message sub → OneMember S sub (m.content name) := by
  have hof : ∀ {n : String}, (S.find ty n).isSome = true → S.oneof ty n = some o := by
    intro n hn
    obtain ⟨f, hf⟩ := Option.isSome_iff_exists.mp hn
    simp [Schema.oneof, hf, hone f (Schema.mem_of_find hf).1]
  -- a further occurrence would be one of the same field
  have hlast : ∀ {n : String} {rest : Msg}, (S.find ty n).isSome = true →
      (S.isList ty n = true ∨ n ∉ rest.names) →
      (∀ n' ∈ rest.names, (S.find ty n').isSome = true) →
      (∀ n' ∈ rest.names, S.sameOneof ty n' n = true → n' = n) → rest = .nil := by
    intro n rest hn hsing hknown hsame
    apply eq_nil_of_names
    rw [List.eq_nil_iff_forall_not_mem]
    intro n' hn'
    have hs : S.sameOneof ty n' n = true := by simp [Schema.sameOneof, hof hn, hof (hknown n' hn')]
    obtain rfl := hsame n' hn' hs
    have hlist := isList_of_sameOneof hS hs
    simp [hlist, hn'] at hsing
  cases m with
  | nil => exact ⟨fun _ => ⟨by simp [Msg.names], fun _ _ _ => trivial⟩, fun _ => trivial⟩
  | leaf n v rest =>
    constructor
    · intro h
      obtain rfl := hlast hfields.1 hrep.1 hfields.2.names h.1
      exact ⟨by simp [Msg.names], fun _ _ _ => trivial⟩
    · intro h
      obtain rfl : rest = .nil := eq_nil_of_names (by simpa [Msg.names] using h.1)
      exact ⟨by simp [Msg.names], trivial⟩
  | node n c rest =>
    constructor
    · intro h
      obtain rfl := hlast hfields.1 hrep.1 hfields.2.2.names h.1
      refine ⟨by simp [Msg.names], fun name sub hkind => ?_⟩
      by_cases hn : n = name
      · subst hn
        rw [Msg.content, if_pos rfl]
        exact h.2.1 sub hkind
      · rw [Msg.content, if_neg hn]
        trivial
    · intro h
      obtain rfl : rest = .nil := eq_nil_of_names (by simpa [Msg.names] using h.1)
      refine ⟨by simp [Msg.names], fun sub hkind => ?_, trivial⟩
      have hcontent := h.2 n sub hkind
      rwa [Msg.content, if_pos rfl] at hcontent

/-! ## Strict messages -/

/-- What displaces nothing is kept as it is. -/
theorem merge_eq_append : ∀ {m : Msg} {ty : M} {acc : Msg}, Strict S ty m →
    (∀ n' ∈ m.names, ∀ n ∈ acc.names, S.displaces ty n' n = false) → merge S ty acc m = acc ++ m
  | .nil, _, acc, _, _ => by simp [merge]
  | .leaf n v rest, ty, acc, hm, hfree => by
    have hacc : acc.drop (S.displaces ty n) = acc := Msg.drop_eq_self (hfree n List.mem_cons_self)
    have ih : merge S ty (acc ++ .leaf n v .nil) rest = (acc ++ .leaf n v .nil) ++ rest :=
      merge_eq_append hm.2 ?_
    · rw [merge, hacc, ih, Msg.append_assoc]
      rfl
    intro n' hn' x hx
    rw [Msg.names_append, List.mem_append] at hx
    rcases hx with hx | hx
    · exact hfree n' (.tail _ hn') x hx
    · obtain rfl : x = n := by simpa [Msg.names] using hx
      exact hm.1 n' hn'
  | .node n c rest, ty, acc, hm, hfree => by
    have hacc : acc.drop (S.displaces ty n) = acc := Msg.drop_eq_self (hfree n List.mem_cons_self)
    have hprev : (if S.isList ty n then Msg.nil else acc.content n) = .nil := by
      split
      · rfl
      next hlist =>
      apply Msg.content_eq_nil
      intro hmem
      have := hfree n List.mem_cons_self n hmem
      simp [Schema.displaces, hlist] at this
    have hcontent : (match S.kind ty n with
        | .message sub => merge S sub .nil c
        | _ => c) = c := by
      split
      · next sub hsub =>
        have happend : merge S sub .nil c = .nil ++ c :=
          merge_eq_append (hm.2.1 sub hsub) (by simp [Msg.names])
        simpa using happend
      · rfl
    have ih : merge S ty (acc ++ .node n c .nil) rest = (acc ++ .node n c .nil) ++ rest :=
      merge_eq_append hm.2.2 ?_
    · simp only [merge, hacc, hprev, hcontent]
      rw [ih, Msg.append_assoc]
      rfl
    intro n' hn' x hx
    rw [Msg.names_append, List.mem_append] at hx
    rcases hx with hx | hx
    · exact hfree n' (.tail _ hn') x hx
    · obtain rfl : x = n := by simpa [Msg.names] using hx
      exact hm.1 n' hn'

theorem mem_names_of_drop {p : String → Bool} {n : String} {m : Msg} (h : n ∈ (m.drop p).names) :
    n ∈ m.names := by
  rw [Msg.names_drop] at h
  exact List.mem_of_mem_filter h

theorem Strict.drop (p : String → Bool) : ∀ {m : Msg}, Strict S ty m → Strict S ty (m.drop p)
  | .nil, h => h
  | .leaf n v rest, h => by
    have ih := Strict.drop p (m := rest) h.2
    by_cases hp : p n = true
    · simpa [Msg.drop, hp] using ih
    · simp only [Msg.drop, hp]
      exact ⟨fun n' hn' => h.1 n' (mem_names_of_drop hn'), ih⟩
  | .node n c rest, h => by
    have ih := Strict.drop p (m := rest) h.2.2
    by_cases hp : p n = true
    · simpa [Msg.drop, hp] using ih
    · simp only [Msg.drop, hp]
      exact ⟨fun n' hn' => h.1 n' (mem_names_of_drop hn'), h.2.1, ih⟩

theorem Strict.append {b : Msg} (hb : Strict S ty b) : ∀ {a : Msg}, Strict S ty a →
    (∀ n' ∈ b.names, ∀ n ∈ a.names, S.displaces ty n' n = false) → Strict S ty (a ++ b)
  | .nil, _, _ => hb
  | .leaf n v rest, ha, hfree => by
    refine ⟨fun n' hn' => ?_, Strict.append hb ha.2 fun n' hn' x hx => hfree n' hn' x (.tail _ hx)⟩
    change n' ∈ (rest ++ b).names at hn'
    rw [Msg.names_append, List.mem_append] at hn'
    rcases hn' with hn' | hn'
    · exact ha.1 n' hn'
    · exact hfree n' hn' n List.mem_cons_self
  | .node n c rest, ha, hfree => by
    refine ⟨fun n' hn' => ?_, ha.2.1,
      Strict.append hb ha.2.2 fun n' hn' x hx => hfree n' hn' x (.tail _ hx)⟩
    change n' ∈ (rest ++ b).names at hn'
    rw [Msg.names_append, List.mem_append] at hn'
    rcases hn' with hn' | hn'
    · exact ha.1 n' hn'
    · exact hfree n' hn' n List.mem_cons_self

/-- After an occurrence displaced the others, it may follow them. -/
theorem Strict.put {acc : Msg} (h : Strict S ty acc) {n : String} {occ : Msg}
    (hocc : Strict S ty occ) (hnames : occ.names = [n]) :
    Strict S ty (acc.drop (S.displaces ty n) ++ occ) := by
  refine Strict.append hocc (h.drop _) ?_
  intro n' hn' x hx
  obtain rfl : n' = n := by simpa [hnames] using hn'
  rw [Msg.names_drop, List.mem_filter] at hx
  simpa using hx.2

/-- What merging keeps is strict. -/
theorem merge_strict : ∀ {m : Msg} {ty : M} {acc : Msg}, Strict S ty acc →
    Strict S ty (merge S ty acc m)
  | .nil, _, _, h => h
  | .leaf n v rest, ty, acc, h => by
    rw [merge]
    have hocc : Strict S ty (.leaf n v .nil) := ⟨by simp [Msg.names], trivial⟩
    exact merge_strict (h.put hocc rfl)
  | .node n c rest, ty, acc, h => by
    rw [merge]
    refine merge_strict (h.put ⟨by simp [Msg.names], fun sub hsub => ?_, trivial⟩ rfl)
    simp only [hsub]
    apply merge_strict
    split
    · trivial
    · exact EveryOcc.content hsub h

/-- Decoding leaves exactly the strict messages as they are. -/
theorem merge_eq_self_iff {m : Msg} : merge S ty .nil m = m ↔ Strict S ty m := by
  constructor
  · intro h
    rw [← h]
    exact merge_strict trivial
  · intro h
    have happend : merge S ty .nil m = .nil ++ m := merge_eq_append h (by simp [Msg.names])
    simpa using happend

end Proto
