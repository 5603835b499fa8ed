-- SUMMARY: What the strict check of log entries ensures, and the oneof that it does not cover.
import ArbiterCore.Wire.Command

/-!
# Strict decoding

The check before decoding is compared with the occurrences that the bytes spell.
An accepted entry has no unknown field and no repeated singular field at any
depth, and one command. Members of a oneof have different numbers, so that the
check sees no repetition in two of them. Below the command only the disposition
action has a oneof: exactly when at most one of its members occurs, decoding keeps
every occurrence.
-/

namespace ArbiterCore.Wire

open GoSlice (Slice)
open Proto

/-! ## The check and the occurrences -/

section Validate

variable {M : Type} {S : Schema M} {ty : M} {seen : List Nat} {count fuel n : Nat}

/-- What one step of the check establishes. -/
theorem validateFields_cons {b : UInt8} {bs : Bytes}
    (h : validateFields S (fuel + 1) ty seen count (b :: bs) = .ok n) :
    ∃ num typ rest fd p rest', consumeTag (b :: bs) = some (num, typ, rest) ∧
      S.findNumber ty num = some fd ∧
      (typ = expectedType fd ∨ fd.list = true ∧ expectedType fd ≠ .bytes ∧ typ = .bytes) ∧
      (num ∈ seen → fd.list = true) ∧ consumeFieldValue typ rest = some (p, rest') ∧
      (∀ sub, fd.kind = .message sub → ∃ c k, p = .bytes c ∧ validateFields S fuel sub [] 0 c = .ok k) ∧
      validateFields S fuel ty (num :: seen) (count + 1) rest' = .ok n := by
  rw [validateFields] at h
  split at h
  · cases h
  next num typ rest htag =>
  split at h
  · cases h
  next fd hfd =>
  dsimp only at h
  split at h
  · cases h
  next htype =>
  split at h
  · cases h
  next hseen =>
  split at h
  · cases h
  next p rest' hvalue =>
  have htype : typ = expectedType fd ∨ fd.list = true ∧ expectedType fd ≠ .bytes ∧ typ = .bytes := by
    by_cases ht : typ = expectedType fd
    · exact .inl ht
    · exact .inr (by simpa [ht, and_assoc] using htype)
  have hseen : num ∈ seen → fd.list = true := fun hmem => by simpa [hmem] using hseen
  refine ⟨num, typ, rest, fd, p, rest', htag, hfd, htype, hseen, hvalue, ?_⟩
  split at h
  · next sub c hkind =>
    split at h
    · cases h
    next k hk =>
    exact ⟨fun sub' hsub' => ⟨c, k, rfl, by rwa [← (Kind.message.inj (hkind.symm.trans hsub'))]⟩, h⟩
  · cases h
  · next hkind _ => exact ⟨fun sub hsub => absurd hsub (hkind sub), h⟩

/-- A value of the wire type of its field is known. -/
theorem read_known {fd : FieldDescriptor M} {p : Payload} {num : Nat} {v : Scalar}
    (htype : p.wireType = expectedType fd ∨ fd.list = true ∧ expectedType fd ≠ .bytes ∧ p.wireType = .bytes)
    (hkind : ∀ sub, fd.kind ≠ .message sub) (h : fd.read num p = some v) :
    ∀ num' q, v ≠ .unknown num' q := by
  rintro num' q rfl
  cases hk : fd.kind with
  | message sub => exact hkind sub hk
  | text =>
    have hp : p.wireType = .bytes := by simpa [expectedType, hk] using htype
    cases p <;> simp_all [Payload.wireType, FieldDescriptor.read]
  | bytes =>
    have hp : p.wireType = .bytes := by simpa [expectedType, hk] using htype
    cases p <;> simp_all [Payload.wireType, FieldDescriptor.read]
  | num k =>
    -- the value is a number of the kind, or the field is a packed list
    cases k <;> cases p <;>
      simp_all [Payload.wireType, FieldDescriptor.read, expectedType, NumKind.wireType, NumKind.value]

/-- What is known of the occurrences of checked bytes. -/
structure Checked (S : Schema M) (ty : M) (seen : List Nat) (t : Msg) : Prop where
  known : NoUnknown t
  fields : EveryOcc S (fun ty name _ => (S.find ty name).isSome = true) ty t
  noRepeat : NoRepeat S ty t
  fresh : ∀ name ∈ t.names, S.isList ty name = false → S.number ty name ∉ seen

theorem checked_of_validateFields (hS : S.Valid) : ∀ {fuel : Nat} {ty : M} {seen : List Nat} {count n : Nat}
    {b : Bytes} {t : Msg}, validateFields S fuel ty seen count b = .ok n → parse S fuel ty b = some t →
    Checked S ty seen t ∧ n = count + t.names.length
  | fuel, ty, seen, count, n, [], t, hv, hp => by
    obtain rfl : t = .nil := by cases fuel <;> simpa [parse] using hp.symm
    obtain rfl : n = count := by cases fuel <;> simpa [validateFields] using hv.symm
    exact ⟨⟨trivial, trivial, trivial, by simp [Msg.names]⟩, rfl⟩
  | 0, ty, seen, count, n, _ :: _, t, hv, hp => by simp [parse] at hp
  | fuel + 1, ty, seen, count, n, b :: bs, t, hv, hp => by
    obtain ⟨num, typ, rest, fd, p, rest', htag, hfd, htype, hseen, hvalue, hnested, hrest⟩ :=
      validateFields_cons hv
    obtain ⟨hmem, rfl⟩ := Schema.mem_of_findNumber hfd
    have hfind := hS.find_of_mem hmem
    have hlist : S.isList ty fd.name = fd.list := by simp [Schema.isList, hfind]
    have hkindof : S.kind ty fd.name = fd.kind := by simp [Schema.kind, hfind]
    simp only [parse, htag, hvalue, hfd] at hp
    -- the tail is checked with the number of this field seen
    have hone : ∀ {tail : Msg}, Checked S ty (S.number ty fd.name :: seen) tail →
        (S.isList ty fd.name = true ∨ fd.name ∉ tail.names) ∧
          (∀ name ∈ tail.names, S.isList ty name = false → S.number ty name ∉ seen) := by
      intro tail htail
      refine ⟨?_, fun name hname hsing hin => htail.fresh name hname hsing (.tail _ hin)⟩
      by_cases hl : S.isList ty fd.name = true
      · exact .inl hl
      · exact .inr fun hin => htail.fresh _ hin (by simpa using hl) List.mem_cons_self
    have hfresh : S.isList ty fd.name = false → S.number ty fd.name ∉ seen := fun hl hin => by
      rw [hlist, hseen hin] at hl
      cases hl
    split at hp
    · next sub c hkind =>
      obtain ⟨c', k, hc, hcontent⟩ := hnested sub hkind
      obtain rfl := Payload.bytes.inj hc
      split at hp
      · next content tail hcp htp =>
        obtain rfl := Option.some.inj hp
        obtain ⟨hc, -⟩ := checked_of_validateFields hS hcontent hcp
        obtain ⟨ht, rfl⟩ := checked_of_validateFields hS hrest htp
        obtain ⟨hrep, hold⟩ := hone ht
        refine ⟨⟨⟨hc.known, ht.known⟩, ⟨by simp [hfind], ?_, ht.fields⟩, ⟨hrep, ?_, ht.noRepeat⟩, ?_⟩, ?_⟩
        · intro sub' hsub'
          rw [hkindof, hkind] at hsub'
          exact Kind.message.inj hsub' ▸ hc.fields
        · intro sub' hsub'
          rw [hkindof, hkind] at hsub'
          exact Kind.message.inj hsub' ▸ hc.noRepeat
        · rintro name hname
          rcases List.mem_cons.mp hname with rfl | hname
          · exact hfresh
          · exact hold name hname
        · simp [Msg.names]
          omega
      · cases hp
    · next hscalar =>
      have hkind : ∀ sub, fd.kind ≠ .message sub := fun sub hsub => by
        obtain ⟨c, k, rfl, -⟩ := hnested sub hsub
        exact hscalar sub c hsub rfl
      split at hp
      · next v tail hread htp =>
        obtain rfl := Option.some.inj hp
        obtain ⟨ht, rfl⟩ := checked_of_validateFields hS hrest htp
        obtain ⟨hrep, hold⟩ := hone ht
        have hwire := consumeFieldValue_wireType hvalue
        refine ⟨⟨⟨read_known (hwire ▸ htype) hkind hread, ht.known⟩, ⟨by simp [hfind], ht.fields⟩,
          ⟨hrep, ht.noRepeat⟩, ?_⟩, ?_⟩
        · rintro name hname
          rcases List.mem_cons.mp hname with rfl | hname
          · exact hfresh
          · exact hold name hname
        · simp [Msg.names]
          omega
      · cases hp

end Validate

/-! ## Oneofs of the log -/

variable {D : Descriptors}

/-- The message types that contain no oneof at any depth. -/
def Plain (ty : MsgType) : Prop :=
  ty ∉ [.raftCommand, .artifactDispositionCmd, .artifactDispositionCommandV1, .artifactDispositionActionV1]

instance : DecidablePred Plain := fun _ => inferInstanceAs (Decidable (_ ∉ _))

theorem plain_fields (ty : MsgType) : Plain ty → ∀ f ∈ fields ty, f.oneof = none := by
  cases ty <;> decide +kernel

/-- The message type of a field. -/
def subType (f : FieldDescriptor MsgType) : Option MsgType :=
  match f.kind with
  | .message sub => some sub
  | _ => none

theorem plain_subTypes (ty : MsgType) :
    ty ∉ [MsgType.raftCommand, .artifactDispositionCmd, .artifactDispositionCommandV1] →
      ∀ f ∈ fields ty, ∀ sub ∈ subType f, Plain sub := by
  cases ty <;> decide +kernel

theorem subType_of_kind {f : FieldDescriptor MsgType} {sub : MsgType} (h : f.kind = .message sub) :
    sub ∈ subType f := by
  simp [subType, h]

theorem oneMember_of_plainType {ty : MsgType} (hty : Plain ty) (m : Msg) : OneMember (schema D) ty m :=
  oneMember_of_plain plain_fields (fun ty hty f hf sub hsub =>
    plain_subTypes ty (fun h => hty (by simp at h ⊢; tauto)) f hf sub (subType_of_kind hsub)) hty

theorem kind_eq {ty sub : MsgType} {name : String} {f : FieldDescriptor MsgType}
    (hfind : (fields ty).find? (·.name = name) = some f) (hkind : f.kind = .message sub) :
    (schema D).kind ty name = .message sub := by
  have h : (schema D).find ty name = some f := hfind
  simp [Schema.kind, h, hkind]

/-- The message of the disposition action, empty if the entry has none. -/
def dispositionAction (t : Msg) : Msg := ((t.content "artifact_disposition").content "command").content "action"

/-- At most one member occurs in every oneof exactly if at most one occurs in the disposition action. -/
theorem oneMember_iff_action {t : Msg} (hc : Checked (schema D) .raftCommand [] t) (hone : t.names.length = 1) :
    OneMember (schema D) .raftCommand t ↔ (dispositionAction t).names.length ≤ 1 := by
  have hS := schema_valid D
  have hcmd : (schema D).kind .raftCommand "artifact_disposition" = .message .artifactDispositionCmd :=
    kind_eq rfl rfl
  have hcommand : (schema D).kind .artifactDispositionCmd "command" = .message .artifactDispositionCommandV1 :=
    kind_eq rfl rfl
  have haction : (schema D).kind .artifactDispositionCommandV1 "action" =
      .message .artifactDispositionActionV1 := kind_eq rfl rfl
  have hmember1 : ∀ f ∈ fields .raftCommand, f.oneof = some "cmd" := by decide +kernel
  have hnone1 : ∀ f ∈ fields .artifactDispositionCmd, f.oneof = none := by decide +kernel
  have hnone2 : ∀ f ∈ fields .artifactDispositionCommandV1, f.oneof = none := by decide +kernel
  have hmember2 : ∀ f ∈ fields .artifactDispositionActionV1, f.oneof = some "action" := by decide +kernel
  -- from the entry to its disposition, its command and the action
  rw [oneMember_iff_single hmember1 hc.noRepeat hc.fields hS]
  have hrep1 := EveryOcc.content hcmd hc.noRepeat
  have hrep2 := EveryOcc.content hcommand hrep1
  have hrep3 := EveryOcc.content haction hrep2
  have hfields3 := EveryOcc.content haction (EveryOcc.content hcommand (EveryOcc.content hcmd hc.fields))
  have hplain1 : ∀ f ∈ fields .raftCommand, f.name ≠ "artifact_disposition" →
      ∀ sub ∈ subType f, Plain sub := by decide +kernel
  have hplain2 : ∀ f ∈ fields .artifactDispositionCmd, f.name ≠ "command" →
      ∀ sub ∈ subType f, Plain sub := by decide +kernel
  have hplain3 : ∀ f ∈ fields .artifactDispositionCommandV1, f.name ≠ "action" →
      ∀ sub ∈ subType f, Plain sub := by decide +kernel
  have hcontent : (∀ name sub, (schema D).kind .raftCommand name = .message sub →
      OneMember (schema D) sub (t.content name)) ↔
      OneMember (schema D) .artifactDispositionCmd (t.content "artifact_disposition") := by
    refine ⟨fun h => h _ _ hcmd, fun h name sub hkind => ?_⟩
    obtain ⟨f, hf, hname, hfk⟩ := Schema.find_of_kind hkind
    by_cases hn : name = "artifact_disposition"
    · subst hn
      obtain rfl := Kind.message.inj (hcmd.symm.trans hkind)
      exact h
    · exact oneMember_of_plainType (hplain1 f hf (hname ▸ hn) sub (subType_of_kind hfk)) _
  rw [hcontent, and_iff_right hone.le,
    oneMember_iff_content hnone1 hcommand rfl
      (fun f hf hn sub hsub => oneMember_of_plainType (hplain2 f hf hn sub (subType_of_kind hsub))) hrep1,
    oneMember_iff_content hnone2 haction rfl
      (fun f hf hn sub hsub => oneMember_of_plainType (hplain3 f hf hn sub (subType_of_kind hsub))) hrep2,
    oneMember_iff_single hmember2 hrep3 hfields3 hS]
  refine and_iff_left fun name sub hkind => ?_
  obtain ⟨f, hf, -, hfk⟩ := Schema.find_of_kind hkind
  exact oneMember_of_plainType (plain_subTypes _ (by decide) f hf sub (subType_of_kind hfk)) _

/-- What is known of an accepted entry. -/
theorem checked_of_decode {b : Bytes} {c : Command} (h : decode D b = .ok c) :
    ∃ t, parse (schema D) b.length .raftCommand b = some t ∧ Checked (schema D) .raftCommand [] t ∧
      t.names.length = 1 ∧ decodeCommand ⟨merge (schema D) .raftCommand .nil t⟩ = .ok c := by
  rw [decode] at h
  split at h
  · cases h
  next hv =>
  split at h
  · cases h
  next m hm =>
  obtain ⟨t, ht, rfl⟩ := Option.map_eq_some_iff.mp hm
  rw [validateCommandBytes] at hv
  split at hv
  · cases hv
  next count hcount =>
  obtain ⟨hc, hlen⟩ := checked_of_validateFields (schema_valid D) hcount ht
  refine ⟨t, ht, hc, ?_, h⟩
  by_contra hne
  have hcount : count ≠ 1 := by omega
  simp [hcount] at hv

/-- An accepted entry has no unknown field and no repeated singular field at any depth, and one
    command. It has at most one member of every oneof, and decoding keeps all its occurrences, exactly
    if at most one member occurs in its disposition action. -/
theorem decode_strict_iff (D : Descriptors) (b : Bytes) (c : Command) (h : decode D b = .ok c) :
    ∃ t, parse (schema D) b.length .raftCommand b = some t ∧ NoUnknown t ∧
      NoRepeat (schema D) .raftCommand t ∧ t.names.length = 1 ∧
      (OneMember (schema D) .raftCommand t ∧ merge (schema D) .raftCommand .nil t = t ∧
        decodeCommand ⟨t⟩ = .ok c ↔ (dispositionAction t).names.length ≤ 1) := by
  obtain ⟨t, ht, hc, hlen, hdec⟩ := checked_of_decode h
  have hiff := oneMember_iff_action hc hlen
  refine ⟨t, ht, hc.known, hc.noRepeat, hlen, fun hl => hiff.mp hl.1, fun hle => ?_⟩
  have hmember := hiff.mpr hle
  have hmerge : merge (schema D) .raftCommand .nil t = t :=
    merge_eq_self_iff.mpr ((strict_iff (schema_valid D)).mpr ⟨hc.noRepeat, hmember⟩)
  exact ⟨hmember, hmerge, by rwa [hmerge] at hdec⟩

/-- A disposition whose action is a grant of a reservation. -/
def grantEntry : Bytes := [0xe2, 0x01, 0x06, 0x0a, 0x04, 0x3a, 0x02, 0x62, 0x00]

theorem decode_strict_iff_grant : ∃ c, decode .declared grantEntry = .ok c ∧
    ∃ t, parse (schema .declared) grantEntry.length .raftCommand grantEntry = some t ∧ NoUnknown t ∧
      NoRepeat (schema .declared) .raftCommand t ∧ t.names.length = 1 ∧
      (OneMember (schema .declared) .raftCommand t ∧ merge (schema .declared) .raftCommand .nil t = t ∧
        decodeCommand ⟨t⟩ = .ok c ↔ (dispositionAction t).names.length ≤ 1) :=
  ⟨_, rfl, decode_strict_iff .declared grantEntry _ rfl⟩

/-- The binding of a policy before the grant. -/
def bindThenGrantEntry : Bytes := [0xe2, 0x01, 0x08, 0x0a, 0x06, 0x3a, 0x04, 0x0a, 0x00, 0x62, 0x00]

/-- The entry spells two actions and is accepted; decoding drops the binding. -/
theorem decode_drops_action : ∃ c t, decode .declared bindThenGrantEntry = .ok c ∧
    parse (schema .declared) bindThenGrantEntry.length .raftCommand bindThenGrantEntry = some t ∧
    (dispositionAction t).names = ["bind_policy", "grant_reservation"] ∧
    ¬ OneMember (schema .declared) .raftCommand t ∧
    (dispositionAction (merge (schema .declared) .raftCommand .nil t)).names = ["grant_reservation"] ∧
    (c .artifactDisposition).map (fun v => ((v.command.action .bindPolicy).isSome,
      (v.command.action .grantReservation).isSome)) = some (false, true) := by
  refine ⟨_, _, rfl, rfl, rfl, ?_, rfl, rfl⟩
  intro h
  have hcommand := (h.2.1 .artifactDispositionCmd rfl).2.1 .artifactDispositionCommandV1 rfl
  have haction := hcommand.2.1 .artifactDispositionActionV1 rfl
  have hsame := haction.1 "grant_reservation" List.mem_cons_self rfl
  exact absurd hsame (by decide)

end ArbiterCore.Wire
