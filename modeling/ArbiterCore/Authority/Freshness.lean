-- SUMMARY: Which issue times the age checks of tokens accept, when both differences are taken in 64 bits.
import ArbiterCore.Authority.Separation

/-!
# The age of tokens

The age checks subtract in int64. The first difference rejects every issue time
for which the second one wraps around, except the one that is exactly 2^63
seconds before the clock: there the second difference is the least int64.
-/

namespace ArbiterCore.Authority

open Wire Json

variable {S : Scheme} {v : Validator} {now : Int64} {age : Int}

/-- The token was issued within the age and the tolerance, in unbounded integers. -/
def Fresh (age : Int) (now iat : Int64) : Prop :=
  -5 ≤ now.toInt - iat.toInt ∧ now.toInt - iat.toInt ≤ age + 5

/-- The difference of the expiry check wraps around and the other one does not. -/
def Wrapped (now iat : Int64) : Prop := iat.toInt = now.toInt - 2 ^ 63

section Clock

variable (hwhole : v.maxTokenAge.toInt = age * 1000000000) (hpos : 0 < age) (hnow : 0 ≤ now.toInt)
  (hnow' : now.toInt < 2 ^ 62)

include hwhole hpos

theorem toInt_seconds : (v.maxTokenAge / 1000000000).toInt = age := by
  have hbound := v.maxTokenAge.toInt_lt
  have hbillion : (1000000000 : Int64).toInt = 1000000000 := rfl
  rw [Int64.toInt_div, hbillion, hwhole, Int.mul_tdiv_cancel _ (by decide)]
  simp only [Int.bmod]
  omega

/-- Whole seconds are not rounded. -/
theorem wholeSeconds_maxAge : wholeSeconds v.maxTokenAge = v.maxTokenAge / 1000000000 := by
  have hbound := v.maxTokenAge.toInt_lt
  have hlog : age.toNat.log2 < 53 := (Nat.log2_lt (by omega)).mpr (by omega)
  have hpow : (2 : Int) ^ age.toNat.log2 < 2 ^ 53 := pow_lt_pow_right₀ (by decide) hlog
  have hleft : 1000000000 - v.maxTokenAge.toInt % 1000000000 = 1000000000 := by omega
  simp only [wholeSeconds, toInt_seconds hwhole hpos, hleft]
  rw [if_neg (by omega)]

theorem toInt_maxAge : (wholeSeconds v.maxTokenAge + clockSkewToleranceSeconds).toInt = age + 5 := by
  have hbound := v.maxTokenAge.toInt_lt
  have hskew : clockSkewToleranceSeconds.toInt = 5 := rfl
  rw [wholeSeconds_maxAge hwhole hpos, Int64.toInt_add, toInt_seconds hwhole hpos, hskew]
  simp only [Int.bmod]
  omega

theorem maxTokenAge_pos : ¬v.maxTokenAge ≤ 0 := by
  have hzero : (0 : Int64).toInt = 0 := rfl
  rw [Int64.le_iff_toInt_le, hwhole, hzero]
  omega

/-- A fresh token is not wrapped: no duration reaches 2^63 seconds. -/
theorem not_wrapped_of_fresh {iat : Int64} (h : Fresh age now iat) : ¬Wrapped now iat := by
  have hbound := v.maxTokenAge.toInt_lt
  intro hwrapped
  have hle := h.2
  rw [hwrapped] at hle
  omega

include hnow hnow'

theorem checkAge_eq_ok {label : String} {iat : Int64} :
    v.checkAge now label iat = .ok () ↔ Fresh age now iat ∨ Wrapped now iat := by
  have hlow := iat.le_toInt
  have hhigh := iat.toInt_lt
  have hbound := v.maxTokenAge.toInt_lt
  have hskew : clockSkewToleranceSeconds.toInt = 5 := rfl
  simp only [Validator.checkAge, bind_eq_ok, refuseIf_eq_ok, exists_const, Int64.lt_iff_toInt_lt,
    toInt_maxAge hwhole hpos, hskew, Int64.toInt_sub, Int.bmod, Fresh, Wrapped]
  -- the cases are where the two differences leave the signed range
  omega

end Clock

/-- With its age enforced, a token that passes the other checks has to pass the age check. -/
theorem verify_enforced [Text.Unicode] {hash purpose addr : String} {token : JWS} {payload : JWSCommandPayload}
    (hother : v.verify (S := S) now hash purpose (.jws token) false = .ok addr)
    (hpayload : unmarshalPayload token.payload = .ok payload) (hage : ¬v.maxTokenAge ≤ 0) :
    (∃ addr, v.verify (S := S) now hash purpose (.jws token) true = .ok addr) ↔
      v.checkAge now "authority" payload.iat = .ok () := by
  simp only [Validator.verify, bind_eq_ok, wrapError_eq_ok, refuseIf_eq_ok, pure_eq_ok, hpayload,
    Except.ok.injEq, exists_eq_left', exists_const, Bool.false_eq_true, not_false_eq_true, true_and,
    if_false, if_true, hage, and_false] at hother ⊢
  obtain ⟨hallowed, alg, halg, hknown, hpurpose, hhash, a, ha, hmem, rfl⟩ := hother
  constructor
  · rintro ⟨_, -, _, -, -, -, -, _, hcheck, -⟩
    exact hcheck
  · intro hcheck
    exact ⟨a, hallowed, alg, halg, hknown, hpurpose, hhash, (), hcheck, a, ha, hmem, rfl⟩

theorem verifyQueryProfileActivation_enforced {p : ActiveQueryPolicy} {addr : String} {token : JWS}
    {iat : Int64} (hother : v.verifyQueryProfileActivation (S := S) now p (.jws token) false = .ok addr)
    (hpayload : token.payload = exactPayload queryProfileActivationPurpose queryProfileActivationVersion
      iat "activation" p.json) (hage : ¬v.maxTokenAge ≤ 0) :
    0 < iat ∧ ((∃ addr, v.verifyQueryProfileActivation (S := S) now p (.jws token) true = .ok addr) ↔
      v.checkAge now "query profile activation" iat = .ok ()) := by
  simp only [Validator.verifyQueryProfileActivation, bind_eq_ok, refuseIf_eq_ok, pure_eq_ok, exists_const,
    Bool.false_eq_true, not_false_eq_true, true_and, if_false, if_true, hage, and_false] at hother ⊢
  obtain ⟨hallowed, hash, hhash, ⟨t, iat'⟩, hparse, a, ha, hmem, rfl⟩ := hother
  have hparsed := hparse
  simp only [parseExactToken, bind_eq_ok, refuseIf_eq_ok, not_not, pure_eq_ok, exists_const,
    Prod.mk.injEq] at hparsed
  obtain ⟨-, i, hi, hexact, -, -, rfl, rfl⟩ := hparsed
  obtain ⟨-, -, rfl, -, -⟩ := exactPayload_inj (hpayload.symm.trans hexact)
  simp only [parseExactPayload, bind_eq_ok, refuseIf_eq_ok, pure_eq_ok, exists_const] at hi
  obtain ⟨_, -, _, -, _, -, _, -, hpositive, -, rfl⟩ := hi
  refine ⟨Int64.not_le.mp fun h => hpositive (.inr (.inr h)), ?_, fun hcheck => ?_⟩
  · rintro ⟨_, -, _, -, _, hparse', _, hcheck, -⟩
    cases hparse.symm.trans hparse'
    exact hcheck
  · exact ⟨a, hallowed, hash, hhash, _, hparse, (), hcheck, a, ha, hmem, rfl⟩

/-- Among the tokens that pass every other check, the age check of an activation accepts exactly
    the fresh ones, and that of a command does so unless the issue time is 2^63 seconds before
    the clock. -/
theorem accepted_iff_fresh_unless_wrapped [Text.Unicode] (hwhole : v.maxTokenAge.toInt = age * 1000000000)
    (hpos : 0 < age) (hnow : 0 ≤ now.toInt) (hnow' : now.toInt < 2 ^ 62) :
    (∀ {hash purpose addr : String} {token : JWS} {payload : JWSCommandPayload},
      v.verify (S := S) now hash purpose (.jws token) false = .ok addr →
      unmarshalPayload token.payload = .ok payload →
      (((∃ addr, v.verify (S := S) now hash purpose (.jws token) true = .ok addr) ↔
        Fresh age now payload.iat) ↔ ¬Wrapped now payload.iat)) ∧
    (∀ {p : ActiveQueryPolicy} {addr : String} {token : JWS} {iat : Int64},
      v.verifyQueryProfileActivation (S := S) now p (.jws token) false = .ok addr →
      token.payload = exactPayload queryProfileActivationPurpose queryProfileActivationVersion iat
        "activation" p.json →
      ((∃ addr, v.verifyQueryProfileActivation (S := S) now p (.jws token) true = .ok addr) ↔
        Fresh age now iat)) := by
  have hage := maxTokenAge_pos hwhole hpos
  refine ⟨fun {_ _ _ _ payload} hother hpayload => ?_, fun {_ _ _ iat} hother hpayload => ?_⟩
  · rw [verify_enforced hother hpayload hage, checkAge_eq_ok hwhole hpos hnow hnow']
    have hexclusive : Fresh age now payload.iat → ¬Wrapped now payload.iat := not_wrapped_of_fresh hwhole hpos
    constructor
    · exact fun h hwrapped => hexclusive (h.mp (.inr hwrapped)) hwrapped
    · exact fun h => or_iff_left h
  · obtain ⟨hiat, henforced⟩ := verifyQueryProfileActivation_enforced hother hpayload hage
    rw [henforced, checkAge_eq_ok hwhole hpos hnow hnow']
    refine or_iff_left fun hwrapped => ?_
    -- a positive issue time is not before a clock below 2^62 by so much
    have hzero : (0 : Int64).toInt = 0 := rfl
    rw [Int64.lt_iff_toInt_lt, hzero, hwrapped] at hiat
    omega

/-- The validator of one key, with an age of a minute. -/
def Validator.oneMinute : Validator := ⟨["0x00000000000000000000000000000000000000a1"], 60000000000⟩

/-- The promotion of a hash that was issued at `iat`. -/
def promotionOf (iat : Int64) (hash : String) : JWS :=
  let payload := commandPayload promotionPurpose iat hash none
  let signature := Scheme.oneKey.secp256k1.sign () ⟨jwsHeader, payload.json⟩
  { header := jwsHeader, payload := payload.json, signature := { signature with v := signature.v + 27 } }

theorem verify_promotionOf [Text.Unicode] (now iat : Int64) (hash : String) :
    Validator.oneMinute.verify (S := Scheme.oneKey) now hash promotionPurpose (.jws (promotionOf iat hash))
      false = .ok "0x00000000000000000000000000000000000000a1" :=
  verify_signPayload (S := Scheme.oneKey) (p := commandPayload promotionPurpose iat hash none)
    List.mem_cons_self nofun

open scoped Text.Unicode in
/-- A promotion that was issued ten seconds ago is accepted. -/
theorem accepted_iff_fresh_ten_seconds :
    ∃ addr, Validator.oneMinute.verify (S := Scheme.oneKey) 1700000010 "h" promotionPurpose
      (.jws (promotionOf 1700000000 "h")) true = .ok addr := by
  have hage : Validator.oneMinute.maxTokenAge.toInt = 60 * 1000000000 := rfl
  have hnow : (1700000010 : Int64).toInt < 2 ^ 62 := by decide
  have hiff := (accepted_iff_fresh_unless_wrapped (S := Scheme.oneKey) hage (by decide) (by decide) hnow).1
    (verify_promotionOf _ 1700000000 "h") (unmarshalPayload_json _)
  exact (hiff.mpr (show ¬(1700000000 : Int) = 1700000010 - 2 ^ 63 by decide)).mpr
    (show (-5 : Int) ≤ 1700000010 - 1700000000 ∧ (1700000010 : Int) - 1700000000 ≤ 60 + 5 by decide)

open scoped Text.Unicode in
/-- A promotion that was issued 2^63 seconds ago is accepted as well. -/
theorem promotion_accepted_when_wrapped :
    (∃ addr, Validator.oneMinute.verify (S := Scheme.oneKey) 1700000000 "h" promotionPurpose
      (.jws (promotionOf (-9223372035154775808) "h")) true = .ok addr) ∧
      ¬Fresh 60 1700000000 (-9223372035154775808) := by
  refine ⟨⟨_, verify_signPayload (S := Scheme.oneKey)
    (p := commandPayload promotionPurpose (-9223372035154775808) "h" none) List.mem_cons_self
    fun _ => ⟨by decide +kernel, ?_⟩⟩, fun h => ?_⟩
  · refine bind_eq_ok.mpr ⟨(), refuseIf_eq_ok.mpr (by decide +kernel), ?_⟩
    exact refuseIf_eq_ok.mpr (by decide +kernel)
  · exact absurd h.2 (show ¬(1700000000 : Int) - (-9223372035154775808) ≤ 60 + 5 by decide)

end ArbiterCore.Authority
