-- SUMMARY: Encoding and decoding log entries are inverse up to the canonical form of lists.
import ArbiterCore.Wire.StrictDecode

/-!
# The codec of log entries

A command with one variant set is encoded, its entry passes the strict check, and
decoding gives its canonical form. What `canon` says of a list depends on the
record that has it: a list of a legacy record that is empty decodes to nil, also
inside a snapshot query, and a list of a record of snapshot queries decodes to an
empty one.
-/

namespace ArbiterCore.Wire

open GoSlice (Slice)
open Proto

variable {D : Descriptors}

/-! ## The check accepts what is written -/

section Validate

variable {M : Type} {S : Schema M}

/-- The check of a field that was written, up to what follows it. -/
theorem validateFields_encodeField (hS : S.Valid) {ty : M} {f : FieldDescriptor M} {p : Payload} {rest : Bytes}
    {seen : List Nat} {count fuel : Nat} (hmem : f ∈ S.fields ty)
    (htype : p.wireType = expectedType f ∨ f.list = true ∧ expectedType f ≠ .bytes ∧ p.wireType = .bytes)
    (hseen : f.list = false → S.number ty f.name ∉ seen)
    (hlen : (encodeField (S.number ty f.name) p).length < 2 ^ 64) :
    validateFields S (fuel + 1) ty seen count (encodeField (S.number ty f.name) p ++ rest) =
      match f.kind, p with
      | .message sub, .bytes nested =>
        match validateFields S fuel sub [] 0 nested with
        | .error e => .error e
        | .ok _ => validateFields S fuel ty (S.number ty f.name :: seen) (count + 1) rest
      | .message _, _ => .error s!"wire: invalid message field {S.number ty f.name}"
      | _, _ => validateFields S fuel ty (S.number ty f.name :: seen) (count + 1) rest := by
  obtain ⟨h1, h2⟩ := hS.range ty f hmem
  obtain ⟨rest', htag, hvalue⟩ := consume_encodeField (p := p) (l := rest) h1 h2 hlen
  obtain ⟨b, bs, hb⟩ := encodeField_ne_nil (S.number ty f.name) p rest
  have hgood : (p.wireType != expectedType f &&
      !(f.list && expectedType f != .bytes && p.wireType == .bytes)) = false := by
    rcases htype with h | ⟨hl, he, hb⟩
    · simp [h]
    · simp [hl, he, hb]
  have hnew : (seen.contains (S.number ty f.name) && !f.list) = false := by
    cases hl : f.list with
    | true => simp
    | false => simpa using hseen hl
  rw [hb] at htag ⊢
  simp only [validateFields, htag, hS.findNumber_of_mem hmem, hgood, hnew, hvalue]
  rfl

/-- The payload of a value has the wire type that the check expects. -/
theorem wireType_of_holds {f : FieldDescriptor M} {v : Scalar} (h : f.Holds v) :
    (v.payload f.kind).wireType = expectedType f ∨
      f.list = true ∧ expectedType f ≠ .bytes ∧ (v.payload f.kind).wireType = .bytes := by
  cases v with
  | num n =>
    obtain ⟨k, hk, -⟩ := h
    exact .inl (by simp [Scalar.payload, expectedType, hk])
  | nums l =>
    obtain ⟨k, hk, hl, -⟩ := h
    exact .inr ⟨hl, by cases k <;> simp [expectedType, hk, NumKind.wireType],
      by simp [Scalar.payload, hk, Payload.wireType]⟩
  | text s =>
    have hk : f.kind = .text := h
    exact .inl (by simp [Scalar.payload, expectedType, hk, Payload.wireType])
  | bytes b =>
    have hk : f.kind = .bytes := h
    exact .inl (by simp [Scalar.payload, expectedType, hk, Payload.wireType])
  | unknown number p => exact absurd h id

/-- After a field was seen, the singular fields that follow are still new. -/
theorem fresh_tail (hS : S.Valid) {ty : M} {f : FieldDescriptor M} {rest : Msg} {seen : List Nat}
    (hmem : f ∈ S.fields ty) (honce : f.list = true ∨ f.name ∉ rest.names)
    (hfresh : ∀ name ∈ f.name :: rest.names, S.isList ty name = false → S.number ty name ∉ seen)
    (hrest : Conforms S ty rest) :
    ∀ name ∈ rest.names, S.isList ty name = false → S.number ty name ∉ S.number ty f.name :: seen := by
  intro name hname hsing hin
  rcases List.mem_cons.mp hin with heq | hin
  · -- equal numbers are those of one field, which is singular
    obtain ⟨g, hg, rfl⟩ := hrest.field name hname
    have hsame := hS.numbers ty g hg f hmem heq
    have hlist : f.list = false := by simpa [Schema.isList, hsame, hS.find_of_mem hmem] using hsing
    exact (honce.resolve_left (by simp [hlist])) (hsame ▸ hname)
  · exact hfresh name (.tail _ hname) hsing hin

theorem validateFields_marshal (hS : S.Valid) : ∀ {m : Msg} {ty : M} {seen : List Nat} {count fuel : Nat},
    Conforms S ty m → (∀ name ∈ m.names, S.isList ty name = false → S.number ty name ∉ seen) →
    (marshal S ty m).length < 2 ^ 64 → (marshal S ty m).length ≤ fuel →
    validateFields S fuel ty seen count (marshal S ty m) = .ok (count + m.names.length)
  | .nil, ty, seen, count, fuel, _, _, _, _ => by
    cases fuel <;> rfl
  | .leaf n v rest, ty, seen, count, fuel, hc, hfresh, hlen, hfuel => by
    obtain ⟨⟨f, hfind, hholds, honce⟩, hrest⟩ := hc
    obtain ⟨hmem, rfl⟩ := Schema.mem_of_find hfind
    have hlist : S.isList ty f.name = f.list := by simp [Schema.isList, hfind]
    have hm : marshal S ty (.leaf f.name v rest) =
        encodeField (S.number ty f.name) (v.payload f.kind) ++ marshal S ty rest := by
      simp [marshal, Schema.kind, hfind]
    rw [hm, List.length_append] at hlen hfuel
    have hpos := encodeField_length (S.number ty f.name) (v.payload f.kind)
    obtain ⟨fuel, rfl⟩ : ∃ fuel', fuel = fuel' + 1 := ⟨fuel - 1, by omega⟩
    have hnew : f.list = false → S.number ty f.name ∉ seen := fun hl =>
      hfresh f.name List.mem_cons_self (hlist.trans hl)
    rw [hm, validateFields_encodeField hS hmem (wireType_of_holds hholds) hnew (by omega)]
    have ih : validateFields S fuel ty (S.number ty f.name :: seen) (count + 1) (marshal S ty rest) =
        .ok (count + 1 + rest.names.length) :=
      validateFields_marshal hS hrest (fresh_tail hS hmem honce hfresh hrest) (by omega) (by omega)
    split
    · next sub _ hk _ => exact absurd hk (hholds.kind_ne sub)
    · next sub hk _ => exact absurd hk (hholds.kind_ne sub)
    · rw [ih, Msg.names, List.length_cons, Nat.add_assoc, Nat.add_comm 1]
  | .node n c rest, ty, seen, count, fuel, hc, hfresh, hlen, hfuel => by
    obtain ⟨⟨f, sub, hfind, hsub, hcontent, honce⟩, hrest⟩ := hc
    obtain ⟨hmem, rfl⟩ := Schema.mem_of_find hfind
    have hlist : S.isList ty f.name = f.list := by simp [Schema.isList, hfind]
    have hm : marshal S ty (.node f.name c rest) =
        encodeField (S.number ty f.name) (.bytes (marshal S sub c)) ++ marshal S ty rest := by
      simp [marshal, Schema.kind, hfind, hsub]
    rw [hm, List.length_append] at hlen hfuel
    have hinner := length_lt_encodeField (S.number ty f.name) (marshal S sub c)
    obtain ⟨fuel, rfl⟩ : ∃ fuel', fuel = fuel' + 1 := ⟨fuel - 1, by omega⟩
    have hnew : f.list = false → S.number ty f.name ∉ seen := fun hl =>
      hfresh f.name List.mem_cons_self (hlist.trans hl)
    have htype : (Payload.bytes (marshal S sub c)).wireType = expectedType f := by
      simp [Payload.wireType, expectedType, hsub]
    rw [hm, validateFields_encodeField hS hmem (.inl htype) hnew (by omega)]
    have ihc : validateFields S fuel sub [] 0 (marshal S sub c) = .ok (0 + c.names.length) :=
      validateFields_marshal hS hcontent (fun _ _ _ => List.not_mem_nil) (by omega) (by omega)
    have ih : validateFields S fuel ty (S.number ty f.name :: seen) (count + 1) (marshal S ty rest) =
        .ok (count + 1 + rest.names.length) :=
      validateFields_marshal hS hrest (fresh_tail hS hmem honce hfresh hrest) (by omega) (by omega)
    simp only [hsub, ihc, ih, Msg.names, List.length_cons]
    rw [Nat.add_assoc, Nat.add_comm 1]

end Validate

/-! ## Request-only fields -/

/-- No field of a request occurs at any depth. -/
def NoRequestField (D : Descriptors) : MsgType → Msg → Prop :=
  EveryOcc (schema D) fun ty name _ => name ∉ (requestFields ty).map (·.name)

theorem find_of_logFind {ty : MsgType} {name : String} {f : FieldDescriptor MsgType}
    (h : (logSchema D).find ty name = some f) : (schema D).find ty name = some f := by
  obtain ⟨hmem, rfl⟩ := Schema.mem_of_find h
  exact (schema_valid D).find_of_mem (logFields_subset hmem)

/-- The fields of the log and of requests have different names. -/
theorem not_requestField {ty : MsgType} {f : FieldDescriptor MsgType} (h : f ∈ logFields ty) :
    f.name ∉ (requestFields ty).map (·.name) := by
  have hnodup := names_nodup ty
  rw [fields, List.map_append] at hnodup
  exact fun hin => hnodup.disjoint (List.mem_map_of_mem h) hin

/-- What conforms without the fields of requests conforms with them, and has none. -/
theorem conforms_of_log : ∀ {m : Msg} {ty : MsgType}, Conforms (logSchema D) ty m →
    Conforms (schema D) ty m ∧ NoRequestField D ty m
  | .nil, _, _ => ⟨trivial, trivial⟩
  | .leaf n v rest, ty, h => by
    obtain ⟨⟨f, hfind, hholds, honce⟩, hrest⟩ := h
    obtain ⟨hc, hno⟩ := conforms_of_log hrest
    obtain ⟨hmem, rfl⟩ := Schema.mem_of_find hfind
    exact ⟨⟨⟨f, find_of_logFind hfind, hholds, honce⟩, hc⟩, not_requestField hmem, hno⟩
  | .node n c rest, ty, h => by
    obtain ⟨⟨f, sub, hfind, hsub, hcontent, honce⟩, hrest⟩ := h
    obtain ⟨hcc, hcno⟩ := conforms_of_log hcontent
    obtain ⟨hc, hno⟩ := conforms_of_log hrest
    obtain ⟨hmem, rfl⟩ := Schema.mem_of_find hfind
    have hfind := find_of_logFind hfind
    refine ⟨⟨⟨f, sub, hfind, hsub, hcc, honce⟩, hc⟩, not_requestField hmem, fun sub' hsub' => ?_, hno⟩
    have hkind : (schema D).kind ty f.name = .message sub := by simp [Schema.kind, hfind, hsub]
    obtain rfl := Kind.message.inj (hkind.symm.trans hsub')
    exact hcno

/-! ## The commands -/

variable {f : CommandField}

namespace CommandField

/-- What a command has to meet: one disposition action and known reasons of exclusion. -/
def Valid : (f : CommandField) → f.Payload → Prop
  | .artifactDisposition, v => countArtifactDispositionActions v.command.action = 1
  | .memberCheckpoint, v => v.checkpoint.ReasonsKnown
  | _, _ => True

@[simp] theorem ofName_name (f : CommandField) : ofName f.name = some f := by
  cases f <;> rfl

theorem name_inj {g : CommandField} (h : f.name = g.name) : f = g := by
  have hf := ofName_name f
  rw [h, ofName_name] at hf
  exact (Option.some.inj hf).symm

/-- The command is a member of the oneof of entries. -/
theorem mem_logFields (f : CommandField) : arm "cmd" f.name f.msgType ∈ logFields .raftCommand := by
  cases f <;> simp [logFields, name, msgType]

theorem check_of_valid (f : CommandField) {x : f.Payload} (h : f.Valid x) : f.check x = .ok () := by
  cases f with
  | artifactDisposition =>
    have hone : countArtifactDispositionActions x.command.action = 1 := h
    simp [check, requireSingleDispositionAction, hone]
  | _ => rfl

theorem toPB_conforms (f : CommandField) {x : f.Payload} (h : f.Valid x) :
    Conforms (logSchema D) f.msgType (f.toPB x).occs := by
  cases f with
  | artifactDisposition => exact artifactDispositionCmdToPB_conforms h
  | _ => simp [toPB, msgType]

/-- Counting the actions of the canonical form. -/
theorem count_canon (v : ArtifactDispositionActionV1) :
    countArtifactDispositionActions v.canon = countArtifactDispositionActions v := by
  simp [countArtifactDispositionActions, GoUnion.count, ArtifactDispositionActionV1.canon]

theorem fromPB_toPB (f : CommandField) {x : f.Payload} (h : f.Valid x) :
    f.fromPB (f.toPB x) = .ok (f.canon x) := by
  cases f with
  | artifactDisposition =>
    have hone : countArtifactDispositionActions x.command.action = 1 := h
    have hcanon : countArtifactDispositionActions x.canon.command.action = 1 := (count_canon _).trans hone
    simp [fromPB, toPB, canon, artifactDispositionCmdFromPB_toPB hone, requireSingleDispositionAction, hcanon,
      bind, Except.bind, pure, Except.pure]
  | memberCheckpoint => exact memberCheckpointFromRequest_toPB h
  | registerRC =>
    have hrc : (registerRCToPB x).msg "rc" = rcToPB x.rc := by simp [registerRCToPB]
    have hno : ((registerRCToPB x).msg "rc" : PB MsgType.rcRecord).text "source_jws" = "" := by
      rw [hrc]
      simp [rcToPB, asText]
    exact (if_neg fun h => h hno).trans (congrArg _ (registerRCToPB_spec x).2)
  | recordPromotionAck =>
    have hack : (recordPromotionAckToPB x).msg "ack" = promotionAckToPB x.ack := by
      simp [recordPromotionAckToPB]
    have hno : ((recordPromotionAckToPB x).msg "ack" : PB MsgType.promotionAck).text "source_jws" = "" := by
      rw [hack]
      simp [promotionAckToPB, asText]
    exact (if_neg fun h => h hno).trans (congrArg _ (recordPromotionAckToPB_spec x).2)
  | recordCleanupAck =>
    have hack : (recordCleanupAckToPB x).msg "ack" = cleanupAckToPB x.ack := by simp [recordCleanupAckToPB]
    have hno : ((recordCleanupAckToPB x).msg "ack" : PB MsgType.cleanupAck).text "source_jws" = "" := by
      rw [hack]
      simp [cleanupAckToPB, asText]
    exact (if_neg fun h => h hno).trans (congrArg _ (recordCleanupAckToPB_spec x).2)
  | registerNode =>
    have hreg : (registerNodeToPB x).msg "registration" = registrationToPB x.registration := by
      simp [registerNodeToPB]
    have hfeatures : (((registerNodeToPB x).msg "registration" :
        PB MsgType.nodeRegistration).texts "features").elems = [] := by
      rw [hreg]
      simp [registrationToPB, asTexts]
    have hsigner : ((registerNodeToPB x).msg "registration" :
        PB MsgType.nodeRegistration).text "signer_jws" = "" := by
      rw [hreg]
      simp [registrationToPB, asText]
    have hed : ((registerNodeToPB x).msg "registration" :
        PB MsgType.nodeRegistration).text "ed25519_signature" = "" := by
      rw [hreg]
      simp [registrationToPB, asText]
    exact (if_neg fun h => h hfeatures).trans ((if_neg fun h => h.elim (· hsigner) (· hed)).trans
      (congrArg _ (registerNodeToPB_spec x).2))
  | _ => simp [fromPB, toPB, canon]

end CommandField

/-! ## Encoding -/

theorem encodeFields_absent (x : f.Payload) : ∀ {l : List CommandField} {set : Nat}
    {out : Option (Piece MsgType)}, f ∉ l → encodeFields (.only f x) l set out = .ok (set, out)
  | [], _, _, _ => rfl
  | g :: l, set, out, h => by
    have hne : f ≠ g := fun e => h (e ▸ List.mem_cons_self)
    rw [encodeFields, GoUnion.only_ne x hne]
    exact encodeFields_absent x fun hmem => h (.tail _ hmem)

variable {x : f.Payload}

/-- Only the field that is set is counted and kept. -/
theorem encodeFields_only (hx : f.check x = .ok ()) {l : List CommandField} {set : Nat}
    {out : Option (Piece MsgType)} (hnodup : l.Nodup) (hmem : f ∈ l) :
    encodeFields (.only f x) l set out = .ok (set + 1, some (.msg f.name (f.toPB x))) := by
  induction l generalizing set out with
  | nil => cases hmem
  | cons g l ih =>
    obtain ⟨hnot, hnodup⟩ := List.nodup_cons.mp hnodup
    by_cases hg : f = g
    · subst hg
      rw [encodeFields, GoUnion.only_self]
      simp only [hx]
      exact encodeFields_absent x hnot
    · rw [encodeFields, GoUnion.only_ne x hg]
      exact ih hnodup ((List.mem_cons.mp hmem).resolve_left hg)

theorem encodeFields_count {c : Command} : ∀ {l : List CommandField} {set n : Nat} {out o : Option (Piece MsgType)},
    encodeFields c l set out = .ok (n, o) → n = set + c.count l
  | [], set, n, out, o, h => by
    cases h
    rfl
  | f :: l, set, n, out, o, h => by
    rw [encodeFields] at h
    split at h
    · next hf =>
      rw [encodeFields_count h]
      simp [GoUnion.count, hf]
    next x hf =>
    split at h
    · cases h
    · rw [encodeFields_count h]
      simp [GoUnion.count, hf]
      omega

/-- Only a command with one variant is encoded. -/
theorem encode_error {c : Command} (h : c.count CommandField.all ≠ 1) : ∃ e, encode D c = .error e := by
  rw [encode]
  split
  · exact ⟨_, rfl⟩
  next set out hset =>
  have hcount := encodeFields_count hset
  have hne : set ≠ 1 := by omega
  exact ⟨_, if_pos (by simpa using hne)⟩

/-- The occurrences of an entry. -/
def entry (f : CommandField) (x : f.Payload) : Msg := .node f.name (f.toPB x).occs .nil

theorem encode_only (h : f.Valid x) :
    encode D (.only f x) = .ok (marshal (schema D) .raftCommand (entry f x)) := by
  simp only [encode, encodeFields_only (f.check_of_valid h) CommandField.nodup_all f.mem_all]
  rfl

theorem entry_conforms (h : f.Valid x) : Conforms (logSchema D) .raftCommand (entry f x) := by
  have hmem : arm "cmd" f.name f.msgType ∈ (logSchema D).fields .raftCommand := f.mem_logFields
  have hfind := (logSchema_valid D).find_of_mem hmem
  exact ⟨⟨_, f.msgType, hfind, rfl, f.toPB_conforms h, .inr List.not_mem_nil⟩, trivial⟩

/-! ## The action of an entry -/

theorem content_eq_nodes (name : String) : ∀ m : Msg, m.content name = (m.nodes name).head?.getD .nil
  | .nil => rfl
  | .leaf _ _ rest => content_eq_nodes name rest
  | .node n c rest => by
    by_cases h : n = name
    · simp [Msg.content, Msg.nodes, h]
    · simpa [Msg.content, Msg.nodes, h] using content_eq_nodes name rest

theorem dispositionAction_entry (h : f.Valid x) :
    (dispositionAction (entry f x)).names.length ≤ 1 := by
  by_cases hf : f = .artifactDisposition
  · subst hf
    have hone : countArtifactDispositionActions x.command.action = 1 := h
    obtain ⟨g, y, hg⟩ := (GoUnion.count_eq_one_iff DispositionField.mem_all DispositionField.nodup_all).mp hone
    have haction : dispositionAction (entry .artifactDisposition x) =
        (artifactDispositionActionToPB x.command.action).occs := by
      have hcmd : (entry .artifactDisposition x).content "artifact_disposition" =
          (artifactDispositionCmdToPB x).occs := rfl
      rw [dispositionAction, hcmd]
      simp [content_eq_nodes, artifactDispositionCmdToPB, artifactDispositionCommandToPB]
    rw [haction, hg, artifactDispositionActionToPB_only]
    simp [occsOf, Piece.occs, Msg.names]
  · have hname : f.name ≠ "artifact_disposition" := fun e => hf (CommandField.name_inj (g := .artifactDisposition) e)
    simp [dispositionAction, entry, Msg.content, hname, Msg.names]

/-! ## Log entries -/

/-- The form of a command after the wire. -/
def Command.canon (c : Command) : Command := fun f => (c f).map f.canon

/-- The variants that are set are valid. -/
def Command.Valid (c : Command) : Prop := ∀ f x, c f = some x → f.Valid x

theorem Command.canon_only (f : CommandField) (x : f.Payload) :
    Command.canon (.only f x) = .only f (f.canon x) :=
  GoUnion.eq_only (by simp [Command.canon]) fun g hg => by simp [Command.canon, Ne.symm hg]

theorem parse_entry (h : f.Valid x)
    (hlen : (marshal (schema D) .raftCommand (entry f x)).length < 2 ^ 63) :
    parse (schema D) (marshal (schema D) .raftCommand (entry f x)).length .raftCommand
      (marshal (schema D) .raftCommand (entry f x)) = some (entry f x) :=
  parse_marshal (schema_valid D) (conforms_of_log (entry_conforms h)).1 (by omega) le_rfl

theorem decode_entry (h : f.Valid x)
    (hlen : (marshal (schema D) .raftCommand (entry f x)).length < 2 ^ 63) :
    decode D (marshal (schema D) .raftCommand (entry f x)) = .ok (.only f (f.canon x)) := by
  have hc := (conforms_of_log (entry_conforms (D := D) h)).1
  have hcheck : validateFields (schema D) (marshal (schema D) .raftCommand (entry f x)).length .raftCommand [] 0
      (marshal (schema D) .raftCommand (entry f x)) = .ok 1 :=
    validateFields_marshal (schema_valid D) hc (fun _ _ _ => List.not_mem_nil) (by omega) le_rfl
  have hparse := parse_entry h hlen
  -- what passed the check has one member in every oneof, so that merging changes nothing
  obtain ⟨hchecked, -⟩ := checked_of_validateFields (schema_valid D) hcheck hparse
  have hmember := (oneMember_iff_action hchecked rfl).mpr (dispositionAction_entry h)
  have hmerge : merge (schema D) .raftCommand .nil (entry f x) = entry f x :=
    merge_eq_self_iff.mpr ((strict_iff (schema_valid D)).mpr ⟨hchecked.noRepeat, hmember⟩)
  have hcommand : decodeCommand ⟨entry f x⟩ = .ok (.only f (f.canon x)) := by
    simp only [decodeCommand, PB.arm, entry, Msg.arm, CommandField.ofName_name]
    rw [show (⟨(f.toPB x).occs⟩ : PB f.msgType) = f.toPB x from rfl, f.fromPB_toPB h]
  simp [decode, validateCommandBytes, hcheck, unmarshal, hparse, hmerge, hcommand]

/-- A command with one variant is encoded, its entry decodes to its canonical form, and no field of
    a request occurs in it. No other command is encoded. -/
theorem decode_encode (D : Descriptors) (c : Command) :
    (c.count CommandField.all = 1 → c.Valid →
      ∃ b, encode D c = .ok b ∧ (b.length < 2 ^ 63 → decode D b = .ok c.canon ∧
        ∃ t, parse (schema D) b.length .raftCommand b = some t ∧ NoRequestField D .raftCommand t)) ∧
    (c.count CommandField.all ≠ 1 → ∃ e, encode D c = .error e) := by
  refine ⟨fun hone hvalid => ?_, encode_error⟩
  obtain ⟨f, x, rfl⟩ := (GoUnion.count_eq_one_iff CommandField.mem_all CommandField.nodup_all).mp hone
  have hx := hvalid f x (GoUnion.only_self f x)
  refine ⟨_, encode_only hx, fun hlen => ⟨?_, entry f x, parse_entry hx hlen, ?_⟩⟩
  · rw [decode_entry hx hlen, Command.canon_only]
  · exact (conforms_of_log (entry_conforms hx)).2

/-- A transition whose manifest has an empty list of tables. -/
def emptyTransition : Command :=
  .only .publishExecutorProfileTransition
    { transition := { (default : ExecutorProfileTransition) with networkID := "net", keeperShardID := 300 }
      manifest := { (default : SafeSnapshotManifest) with safeBlockSeq := 300, tables := some [] }
      receipts := some [], authorityJWS := "eyJ" }

theorem decode_encode_transition : emptyTransition.count CommandField.all = 1 ∧ emptyTransition.Valid ∧
    ∃ b, encode .declared emptyTransition = .ok b ∧ b.length < 2 ^ 63 ∧
      decode .declared b = .ok emptyTransition.canon ∧
      ∃ t, parse (schema .declared) b.length .raftCommand b = some t ∧ NoRequestField .declared .raftCommand t := by
  have hone : emptyTransition.count CommandField.all = 1 := by decide
  have hvalid : emptyTransition.Valid := by
    intro f x hx
    cases f <;> trivial
  obtain ⟨b, hb, hrest⟩ := (decode_encode .declared emptyTransition).1 hone hvalid
  have hlen : b.length < 2 ^ 63 := by
    obtain rfl := Except.ok.inj (hb.symm.trans rfl)
    decide +kernel
  exact ⟨hone, hvalid, b, hb, hlen, hrest hlen⟩

/-- The empty list of tables in the manifest of a snapshot-query variant decodes to nil; the empty
    list of receipts beside it decodes to an empty one. -/
theorem empty_tables_decode_nil : ∃ b c, encode .declared emptyTransition = .ok b ∧ decode .declared b = .ok c ∧
    (c .publishExecutorProfileTransition).map (fun v => (v.manifest.tables.isNone, v.receipts.isNone)) =
      some (true, false) :=
  ⟨_, _, rfl, rfl, rfl⟩

end ArbiterCore.Wire
