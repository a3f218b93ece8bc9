import Mathlib.Data.Nat.Basic
import Mathlib.Tactic.Common
import Mathlib.Tactic.Ring

/-! Amounts between the local `u128` and the `U256` of a token contract. The conversions go
through `10u128.pow`, the 256-bit product and quotient, and a decimal string. -/
namespace NuloChain.Hft

abbrev U128 : Type := Fin (2^128)

abbrev U256 : Type := Fin (2^256)

instance instNeZeroU256 : NeZero (2^256 : ℕ) := ⟨by decide⟩

/-- `10u128.pow(n)`. A power that does not fit panics in a build with overflow checks, as the tests
have them, and wraps in one without, as releases are; `none` is the panic. -/
def pow10 (checks : Bool) (n : ℕ) : Option ℕ :=
  if 10^n < 2^128 then some (10^n)
  else if checks then none
  else some (10^n%2^128)

/-- The exponent `erc_decimals.saturating_sub(local_decimals)`. -/
def scale (ercDecimals localDecimals : UInt8) : ℕ := ercDecimals.toNat-localDecimals.toNat

/-- One digit of `u128::from_str`: an invalid digit or an overflow is an error. -/
def parseDigit (acc : Option ℕ) (c : Char) : Option ℕ :=
  acc.bind fun n =>
    let m := 10*n+(c.toNat - '0'.toNat)
    if c.isDigit ∧ m < 2^128 then some m else none

/-- `str::parse::<u128>`. -/
def parseU128 (s : List Char) : Option U128 :=
  let digits := match s with
    | '+' :: rest => rest
    | rest => rest
  if digits = [] then none
  else
    match digits.foldl parseDigit (some 0) with
    | some n => if h : n < 2^128 then some ⟨n, h⟩ else none
    | none => none

/-- `convert_to_balance::<u128>`: the outer `none` is a panic, of the power or of the division by
one that wrapped to zero, and the inner one the parse error. -/
def convertToBalance (checks : Bool) (value : U256) (ercDecimals localDecimals : UInt8) :
    Option (Option U128) :=
  (pow10 checks (scale ercDecimals localDecimals)).bind fun factor =>
    if factor = 0 then none
    else
      let decStr := Nat.toDigits 10 (value.val/factor)
      some (parseU128 decStr)

/-- `convert_to_erc20`; `none` is a panic of the power or of the product. -/
def convertToErc20 (checks : Bool) (value : U128) (ercDecimals localDecimals : UInt8) :
    Option U256 :=
  (pow10 checks (scale ercDecimals localDecimals)).bind fun factor =>
    if h : value.val*factor < 2^256 then some ⟨value.val*factor, h⟩ else none

theorem pow10_pos (n : ℕ) : 0 < 10^n := Nat.pow_pos (by decide)

/-- Both builds agree on a power that fits. -/
theorem pow10_eq (checks : Bool) (n : ℕ) (h : n ≤ 38) : pow10 checks n = some (10^n) := by
  have hpow : 10^n ≤ 10^38 := Nat.pow_le_pow_right (by decide) h
  have hbound : 10^38 < 2^128 := by decide
  exact if_pos (Nat.lt_of_le_of_lt hpow hbound)

theorem le_ofDigitChars (cs : List Char) (n : ℕ) : n ≤ Nat.ofDigitChars 10 cs n := by
  induction cs generalizing n with
  | nil => exact Nat.le_of_eq Nat.ofDigitChars_nil.symm
  | cons c cs ih =>
    rw [Nat.ofDigitChars_cons]
    exact Nat.le_trans (by omega) (ih _)

/-- Reading digits fails exactly when their value does not fit. -/
theorem foldl_parseDigit (cs : List Char) (n : ℕ) (hcs : ∀ c ∈ cs, c.isDigit = true)
    (hn : n < 2^128) :
    cs.foldl parseDigit (some n) =
      if Nat.ofDigitChars 10 cs n < 2^128 then some (Nat.ofDigitChars 10 cs n) else none := by
  induction cs generalizing n with
  | nil =>
    rw [Nat.ofDigitChars_nil, if_pos hn]
    rfl
  | cons c cs ih =>
    have hc : c.isDigit = true := hcs c List.mem_cons_self
    have hrest : ∀ d ∈ cs, d.isDigit = true := fun d hd => hcs d (List.mem_cons_of_mem c hd)
    rw [List.foldl_cons, Nat.ofDigitChars_cons]
    by_cases hm : 10*n+(c.toNat - '0'.toNat) < 2^128
    · have hstep : parseDigit (some n) c = some (10*n+(c.toNat - '0'.toNat)) := by
        simp only [parseDigit, Option.bind_some, hc, true_and, if_pos hm]
      rw [hstep]
      exact ih _ hrest hm
    -- an overflow is final: no later digit brings the value back below the bound
    · have hstep : parseDigit (some n) c = none := by
        simp only [parseDigit, Option.bind_some, hc, true_and, if_neg hm]
      have hnone : ∀ ds : List Char, ds.foldl parseDigit none = none := by
        intro ds
        induction ds with
        | nil => rfl
        | cons d ds ihd => exact ihd
      have hle := le_ofDigitChars cs (10*n+(c.toNat - '0'.toNat))
      rw [hstep, hnone, if_neg (fun hlt => hm (Nat.lt_of_le_of_lt hle hlt))]

/-- The decimal string of a number parses to it if it fits, and is an error otherwise. -/
theorem parseU128_toDigits (n : ℕ) :
    parseU128 (Nat.toDigits 10 n) = if h : n < 2^128 then some ⟨n, h⟩ else none := by
  have hdigits : ∀ c ∈ Nat.toDigits 10 n, c.isDigit = true :=
    fun c hc => Nat.isDigit_of_mem_toDigits (by decide) (by decide) hc
  have hne : Nat.toDigits 10 n ≠ [] := Nat.toDigits_ne_nil
  -- a decimal string of a number has no sign to strip
  have hplus : (match Nat.toDigits 10 n with
      | '+' :: rest => rest
      | rest => rest) = Nat.toDigits 10 n := by
    split
    · rename_i rest heq
      have hbad := hdigits '+' (heq ▸ List.mem_cons_self)
      exact absurd hbad (by decide)
    · rfl
  have hfold := foldl_parseDigit (Nat.toDigits 10 n) 0 hdigits (by decide)
  rw [Nat.ofDigitChars_toDigits (by decide) (by decide)] at hfold
  unfold parseU128
  simp only [hplus, if_neg hne, hfold]
  by_cases h : n < 2^128
  · simp only [if_pos h, dif_pos h]
  · simp only [if_neg h, dif_neg h]

theorem convertToBalance_eq (checks : Bool) (value : U256) (ercDecimals localDecimals : UInt8)
    (h : scale ercDecimals localDecimals ≤ 38) :
    convertToBalance checks value ercDecimals localDecimals =
      some (if h : value.val/10^(scale ercDecimals localDecimals) < 2^128 then
        some ⟨value.val/10^(scale ercDecimals localDecimals), h⟩ else none) := by
  rw [convertToBalance, pow10_eq checks _ h, Option.bind_some, if_neg (pow10_pos _).ne']
  exact congrArg some (parseU128_toDigits _)

theorem convertToErc20_eq (checks : Bool) (value : U128) (ercDecimals localDecimals : UInt8)
    (h : scale ercDecimals localDecimals ≤ 38) :
    ∃ x : U256, convertToErc20 checks value ercDecimals localDecimals = some x ∧
      x.val = value.val*10^(scale ercDecimals localDecimals) := by
  have hpow : 10^(scale ercDecimals localDecimals) ≤ 10^38 := Nat.pow_le_pow_right (by decide) h
  have hfit : value.val*10^(scale ercDecimals localDecimals) < 2^256 := by
    calc value.val*10^(scale ercDecimals localDecimals)
        ≤ value.val*10^38 := Nat.mul_le_mul_left _ hpow
      _ ≤ 2^128*10^38 := Nat.mul_le_mul_right _ (Nat.le_of_lt value.isLt)
      _ < 2^256 := by decide
  refine ⟨⟨_, hfit⟩, ?_, rfl⟩
  rw [convertToErc20, pow10_eq checks _ h, Option.bind_some, dif_pos hfit]

/-- The floor of an amount at new decimals, with the old ones not above them. -/
theorem rescale_up (v : ℕ) {m n : ℕ} (h : m ≤ n) : v*10^n/10^m = v*10^(n-m) := by
  have hsplit : 10^n = 10^(n-m)*10^m := by rw [← pow_add, Nat.sub_add_cancel h]
  rw [hsplit, ← mul_assoc, Nat.mul_div_cancel _ (pow10_pos m)]

/-- The floor of an amount at new decimals, with the old ones not below them. -/
theorem rescale_down (x : ℕ) {m n : ℕ} (h : m ≤ n) : x*10^m/10^n = x/10^(n-m) := by
  have hsplit : 10^n = 10^m*10^(n-m) := by rw [← pow_add, Nat.add_sub_cancel' h]
  rw [hsplit, ← Nat.div_div_eq_div_mul, Nat.mul_div_cancel _ (pow10_pos m)]

/-- Scaling up by one power of ten and down by another gives the amount back exactly when
the powers agree, unless there is nothing to scale. -/
theorem scaled_div_eq_iff (v m n : ℕ) : v*10^m/10^n = v ↔ m = n ∨ v = 0 := by
  constructor
  · intro h
    by_contra hne
    obtain ⟨hmn, hv⟩ := not_or.mp hne
    have hpos : 0 < v := Nat.pos_of_ne_zero hv
    rcases Nat.lt_or_ge m n with hlt | hge
    · -- more decimals now than then: something is lost
      rw [rescale_down v hlt.le] at h
      have hbig : 1 < 10^(n-m) := Nat.one_lt_pow (by omega) (by decide)
      exact absurd h (Nat.ne_of_lt (Nat.div_lt_self hpos hbig))
    · -- fewer decimals now than then: the amount is multiplied
      rw [rescale_up v hge] at h
      have hbig : 1 < 10^(m-n) := Nat.one_lt_pow (by omega) (by decide)
      have hgt : v*1 < v*10^(m-n) := Nat.mul_lt_mul_of_pos_left hbig hpos
      omega
  · rintro (rfl | rfl)
    · exact Nat.mul_div_cancel _ (pow10_pos m)
    · simp

theorem scale_of_le {ercDecimals localDecimals : UInt8}
    (h : ercDecimals.toNat ≤ localDecimals.toNat) : scale ercDecimals localDecimals = 0 :=
  Nat.sub_eq_zero_of_le h

/-- The amount `convert_to_erc20` gives is the floor of the same value at the decimals of the
token contract. -/
def ExactErc20 (checks : Bool) (value : U128) (ercDecimals localDecimals : UInt8) : Prop :=
  ∃ x : U256, convertToErc20 checks value ercDecimals localDecimals = some x ∧
    x.val = value.val*10^ercDecimals.toNat/10^localDecimals.toNat

/-- The amount `convert_to_balance` gives is the floor of the same value at the local decimals,
and an error if that does not fit in a `u128`. -/
def ExactBalance (checks : Bool) (value : U256) (ercDecimals localDecimals : UInt8) : Prop :=
  convertToBalance checks value ercDecimals localDecimals =
    some (if h : value.val*10^localDecimals.toNat/10^ercDecimals.toNat < 2^128 then
      some ⟨value.val*10^localDecimals.toNat/10^ercDecimals.toNat, h⟩ else none)

theorem exactErc20_iff (checks : Bool) (value : U128) (ercDecimals localDecimals : UInt8)
    (h : scale ercDecimals localDecimals ≤ 38) :
    ExactErc20 checks value ercDecimals localDecimals ↔
      localDecimals.toNat ≤ ercDecimals.toNat ∨ value.val = 0 := by
  obtain ⟨x, hx, hval⟩ := convertToErc20_eq checks value ercDecimals localDecimals h
  have hexact : ExactErc20 checks value ercDecimals localDecimals ↔
      value.val*10^(scale ercDecimals localDecimals) =
        value.val*10^ercDecimals.toNat/10^localDecimals.toNat := by
    constructor
    · rintro ⟨y, hy, hyval⟩
      obtain rfl : x = y := Option.some.inj (hx.symm.trans hy)
      exact hval.symm.trans hyval
    · exact fun heq => ⟨x, hx, hval.trans heq⟩
  rw [hexact]
  rcases Nat.le_total localDecimals.toNat ercDecimals.toNat with hle | hle
  · exact iff_of_true (rescale_up _ hle).symm (.inl hle)
  · -- nothing is scaled, so the two agree only if nothing had to be
    rw [scale_of_le hle, pow_zero, mul_one, eq_comm, scaled_div_eq_iff]
    have heq : ercDecimals.toNat = localDecimals.toNat ↔
        localDecimals.toNat ≤ ercDecimals.toNat := by omega
    rw [heq]

theorem exactBalance_iff (checks : Bool) (value : U256) (ercDecimals localDecimals : UInt8)
    (h : scale ercDecimals localDecimals ≤ 38) :
    ExactBalance checks value ercDecimals localDecimals ↔
      localDecimals.toNat ≤ ercDecimals.toNat ∨ value.val = 0 ∨ 2^128 ≤ value.val := by
  rw [ExactBalance, convertToBalance_eq checks value ercDecimals localDecimals h]
  rcases Nat.le_total localDecimals.toNat ercDecimals.toNat with hle | hle
  · refine iff_of_true ?_ (.inl hle)
    simp only [rescale_down value.val hle]
    rfl
  · simp only [scale_of_le hle, pow_zero, Nat.div_one, rescale_up value.val hle, Option.some.injEq]
    have hgrows : value.val ≤ value.val*10^(localDecimals.toNat-ercDecimals.toNat) :=
      Nat.le_mul_of_pos_right _ (pow10_pos _)
    constructor
    · intro heq
      by_contra hne
      obtain ⟨hlt, hzero, hfit⟩ : ercDecimals.toNat < localDecimals.toNat ∧ value.val ≠ 0 ∧
          value.val < 2^128 := by omega
      have hbig : 1 < 10^(localDecimals.toNat-ercDecimals.toNat) :=
        Nat.one_lt_pow (by omega) (by decide)
      have hgt : value.val*1 < value.val*10^(localDecimals.toNat-ercDecimals.toNat) :=
        Nat.mul_lt_mul_of_pos_left hbig (Nat.pos_of_ne_zero hzero)
      rw [dif_pos hfit] at heq
      split at heq
      · have hval := congrArg Fin.val (Option.some.inj heq)
        dsimp only at hval
        omega
      · cases heq
    · rintro (heq | hzero | hbig)
      · simp only [Nat.sub_eq_zero_of_le heq, pow_zero, mul_one]
      · simp only [hzero, zero_mul]
      · rw [dif_neg (by omega), dif_neg (by omega)]

/-- Neither conversion makes more of an amount than it is worth, with one exception: an amount
with more decimals here than there goes out unscaled. -/
theorem conversion_exact_iff (checks : Bool) (value : U128) (amount : U256)
    (ercDecimals localDecimals : UInt8)
    (herc : ercDecimals.toNat ≤ localDecimals.toNat+38)
    (hlocal : localDecimals.toNat ≤ ercDecimals.toNat+38) :
    (ExactErc20 checks value ercDecimals localDecimals ↔
      localDecimals.toNat ≤ ercDecimals.toNat ∨ value.val = 0) ∧
    (ExactBalance checks amount ercDecimals localDecimals ↔
      localDecimals.toNat ≤ ercDecimals.toNat ∨ amount.val = 0 ∨ 2^128 ≤ amount.val) ∧
    ((∀ x, convertToErc20 checks value ercDecimals localDecimals = some x →
      x.val*10^localDecimals.toNat ≤ value.val*10^ercDecimals.toNat) ↔
      localDecimals.toNat ≤ ercDecimals.toNat ∨ value.val = 0) ∧
    ∀ b, convertToBalance checks amount ercDecimals localDecimals = some (some b) →
      b.val*10^ercDecimals.toNat ≤ amount.val*10^localDecimals.toNat := by
  have hscale : scale ercDecimals localDecimals ≤ 38 := by
    rw [scale]
    omega
  obtain ⟨x, hx, hval⟩ := convertToErc20_eq checks value ercDecimals localDecimals hscale
  refine ⟨exactErc20_iff checks value _ _ hscale, exactBalance_iff checks amount _ _ hscale, ?_, ?_⟩
  · rw [← exactErc20_iff checks value _ _ hscale]
    constructor
    · intro hworth
      rw [exactErc20_iff checks value _ _ hscale]
      by_contra hne
      obtain ⟨hlt, hzero⟩ : ercDecimals.toNat < localDecimals.toNat ∧ 0 < value.val := by omega
      have hle := hworth x hx
      rw [hval, scale_of_le hlt.le, pow_zero, mul_one] at hle
      have hpow : 10^ercDecimals.toNat < 10^localDecimals.toNat :=
        Nat.pow_lt_pow_right (by decide) hlt
      have hgt := Nat.mul_lt_mul_of_pos_left hpow hzero
      omega
    · rintro ⟨y, hy, hyval⟩ z hz
      obtain rfl : y = z := Option.some.inj (hy.symm.trans hz)
      rw [hyval]
      exact Nat.div_mul_le_self _ _
  · intro b hb
    rw [convertToBalance_eq checks _ _ _ hscale] at hb
    split at hb
    · obtain rfl := Option.some.inj (Option.some.inj hb)
      dsimp only
      rcases Nat.le_total localDecimals.toNat ercDecimals.toNat with hle | hle
      · rw [scale, ← rescale_down amount.val hle]
        exact Nat.div_mul_le_self _ _
      · rw [scale_of_le hle, pow_zero, Nat.div_one]
        exact Nat.mul_le_mul_left _ (Nat.pow_le_pow_right (by decide) hle)
    · cases Option.some.inj hb

theorem conversion_exact_eighteen_twelve : ExactErc20 false ⟨10^12, by decide⟩ 18 12 :=
  (conversion_exact_iff false ⟨10^12, by decide⟩ ⟨10^18, by decide⟩ 18 12 (by decide)
    (by decide)).1.mpr (.inl (by decide))

/-- One token of twelve decimals goes out as a million tokens of six. -/
theorem convertToErc20_unscaled :
    convertToErc20 false ⟨10^12, by decide⟩ 6 12 = some ⟨10^12, by decide⟩ ∧
    ¬ ExactErc20 false ⟨10^12, by decide⟩ 6 12 := by
  have hval : convertToErc20 false ⟨10^12, by decide⟩ 6 12 = some ⟨10^12, by decide⟩ := by decide
  refine ⟨hval, ?_⟩
  rintro ⟨x, hx, hxval⟩
  obtain rfl := Option.some.inj (hval.symm.trans hx)
  exact absurd hxval (by decide)

/-- With no more decimals here than there, what went out comes back whole, and what comes in
loses less than one local unit. -/
theorem conversion_round_trip (checks : Bool) (ercDecimals localDecimals : UInt8)
    (hle : localDecimals.toNat ≤ ercDecimals.toNat)
    (hfar : ercDecimals.toNat ≤ localDecimals.toNat+38) :
    (∀ v : U128, ∃ x : U256, convertToErc20 checks v ercDecimals localDecimals = some x ∧
      convertToBalance checks x ercDecimals localDecimals = some (some v)) ∧
    ∀ (x : U256) (b : U128), convertToBalance checks x ercDecimals localDecimals = some (some b) →
      ∃ y : U256, convertToErc20 checks b ercDecimals localDecimals = some y ∧ y ≤ x ∧
        x.val-y.val < 10^(ercDecimals.toNat-localDecimals.toNat) := by
  have hscale : scale ercDecimals localDecimals ≤ 38 := by
    rw [scale]
    omega
  have hpos : 0 < 10^(scale ercDecimals localDecimals) := pow10_pos _
  constructor
  · intro v
    obtain ⟨x, hx, hval⟩ := convertToErc20_eq checks v ercDecimals localDecimals hscale
    have hback : x.val/10^(scale ercDecimals localDecimals) = v.val := by
      rw [hval, Nat.mul_div_cancel _ hpos]
    refine ⟨x, hx, ?_⟩
    rw [convertToBalance_eq checks x ercDecimals localDecimals hscale]
    simp only [hback, dif_pos v.isLt]
  · intro x b hb
    obtain ⟨y, hy, hval⟩ := convertToErc20_eq checks b ercDecimals localDecimals hscale
    rw [convertToBalance_eq checks x ercDecimals localDecimals hscale] at hb
    split at hb
    · obtain rfl := Option.some.inj (Option.some.inj hb)
      -- the quotient and the remainder of `x` by the factor
      have hquot := Nat.div_add_mod' x.val (10^(scale ercDecimals localDecimals))
      have hrem := Nat.mod_lt x.val hpos
      dsimp only at hval
      refine ⟨y, hy, ?_, ?_⟩
      · rw [Fin.le_def, hval]
        exact Nat.div_mul_le_self _ _
      · rw [hval]
        change _ < 10^(scale ercDecimals localDecimals)
        omega
    · cases Option.some.inj hb

theorem conversion_round_trip_largest :
    ∃ x : U256, convertToErc20 false ⟨2^128-1, by decide⟩ 18 12 = some x ∧
      convertToBalance false x 18 12 = some (some ⟨2^128-1, by decide⟩) :=
  (conversion_round_trip false 18 12 (by decide) (by decide)).1 ⟨2^128-1, by decide⟩

end NuloChain.Hft
