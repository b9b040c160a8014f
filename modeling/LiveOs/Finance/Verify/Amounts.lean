import Mathlib.Data.List.MinMax
import LiveOs.EventLedger.Verify.Payloads
import LiveOs.Finance.Amounts
import LiveOs.Finance.Verify.Evidence
import LiveOs.Lib.Rounding
import LiveOs.Simulation.Verify.Numbers

/-!
# Which amounts are taken as promised

A submission is to refuse an amount with `DomainError`, or to store it with two decimals, at least
`0.01`, within its column and at most half a cent away. What comes of an amount is decided by
`storedCents`; the rest of the submission is assumed to be in order.
-/

namespace LiveOs.Finance

open Lib EventLedger Roles Files
open Planning (Python)
open Procurement (PyDecimal)
open Simulation (Decimal rational)

variable {rt : Runtime} {env : FilesEnv} {files : FileRuntime} {py : Python} {claimant : Member}
  {args : ClaimArgs} {evidence : ExpenseClaim → Except Error Unit} {db : FinanceDb rt}
  {amount : Amount} {cents : Int}

/-! ## Quantisation -/

theorem divHalfEven_halfEven (n : Int) {d : Nat} (hd : 0 < d) :
    HalfEven ((n : ℚ) / d) (PyDecimal.divHalfEven n d) := by
  have hdpos : (0 : ℚ) < d := by exact_mod_cast hd
  have hsplit : (n : ℚ) = d * (n / (d : Int) : Int) + (n % (d : Int) : Int) := by
    exact_mod_cast (Int.mul_ediv_add_emod n d).symm
  have hlo : (0 : ℚ) ≤ (n % (d : Int) : Int) := by
    exact_mod_cast Int.emod_nonneg n (by omega)
  have hhi : ((n % (d : Int) : Int) : ℚ) < d := by
    exact_mod_cast Int.emod_lt_of_pos n (by omega)
  unfold PyDecimal.divHalfEven
  simp only
  generalize n / (d : Int) = q at hsplit ⊢
  generalize n % (d : Int) = r at hsplit hlo hhi ⊢
  have hx : (n : ℚ) / d = q + r / d := by
    rw [hsplit, add_div, mul_div_cancel_left₀ _ hdpos.ne']
  have hr : (0 : ℚ) ≤ r / d := div_nonneg hlo hdpos.le
  have hr1 : (r : ℚ) / d < 1 := (div_lt_one hdpos).2 hhi
  rw [hx]
  split
  · rename_i hlt
    have hhalf : 2 * ((r : ℚ) / d) < 1 := by
      rw [← mul_div_assoc, div_lt_one hdpos]
      exact_mod_cast hlt
    apply HalfEven.of_near
    · linarith
    · linarith
  · rename_i hge
    split
    · rename_i hgt
      have hhalf : 1 < 2 * ((r : ℚ) / d) := by
        rw [← mul_div_assoc, one_lt_div hdpos]
        exact_mod_cast hgt
      apply HalfEven.of_near
      · push_cast
        linarith
      · push_cast
        linarith
    · rename_i hle
      have hhalf : 2 * ((r : ℚ) / d) = 1 := by
        rw [← mul_div_assoc, div_eq_one_iff_eq hdpos.ne']
        have htwice : 2 * r = (d : Int) := by omega
        exact_mod_cast htwice
      split
      · rename_i heven
        exact HalfEven.of_even (by linarith) (by linarith) (Int.even_iff.2 heven)
      · rename_i hodd
        refine HalfEven.of_even ?_ ?_ (Int.even_iff.2 (by omega))
        · push_cast
          linarith
        · push_cast
          linarith

theorem quantize_halfEven (d : PyDecimal) :
    HalfEven (100 * rational d) (d.quantize 2).coefficient := by
  have hscale : 100 * rational d = d.coefficient * (10 : ℚ) ^ (d.exponent + 2) := by
    rw [rational, zpow_add₀ (by norm_num)]
    norm_num
    ring
  unfold PyDecimal.quantize
  simp only [Nat.cast_ofNat]
  split
  · rename_i hshift
    have hpow : (10 : ℚ) ^ (d.exponent + 2) = 10 ^ (d.exponent + 2).toNat := by
      rw [← zpow_natCast, Int.toNat_of_nonneg hshift]
    have hcast : 100 * rational d =
        ((d.coefficient * 10 ^ (d.exponent + 2).toNat : Int) : ℚ) := by
      rw [hscale, hpow]
      push_cast
      rfl
    rw [hcast]
    exact HalfEven.of_int _
  · rename_i hshift
    have hpow : (10 : ℚ) ^ (d.exponent + 2) = ((10 ^ (-(d.exponent + 2)).toNat : Nat) : ℚ)⁻¹ := by
      push_cast
      rw [← zpow_natCast, Int.toNat_of_nonneg (by omega), zpow_neg, inv_inv]
    have hcast : 100 * rational d =
        (d.coefficient : ℚ) / ((10 ^ (-(d.exponent + 2)).toNat : Nat) : ℚ) := by
      rw [hscale, hpow, div_eq_mul_inv]
    rw [hcast]
    exact divHalfEven_halfEven _ (by positivity)

/-! ## What comes of an amount -/

/-- The hundredths that are stored for an amount. -/
def storedCents (py : Python) (amount : Amount) : Except SubmitError Int := do
  let cents ← normaliseAmountOf py amount
  fitsColumn cents
  return cents

/-- The number that a decimal stands for. -/
def number : Decimal → Option ℚ
  | .finite d => some (rational d)
  | _ => none

/-- The number that is handed in. -/
def Amount.value (py : Python) : Amount → Option ℚ
  | .int i => some i
  | .float f =>
    match f.value with
    | .finite q => some q
    | _ => none
  | .decimal d => number d
  | .text s => (readDecimal py s).bind number

theorem normaliseAmountOf_finite {d : PyDecimal} (hread : amount.read py = some (.finite d))
    (hpos : 0 < rational d) : normaliseAmountOf py amount = quantizeHundredths d := by
  have hgt : PyDecimal.zero.lt d = true := Simulation.lt_iff.2 (by rwa [Simulation.rational_zero])
  have hlt : d.lt .zero = false := by
    rw [Bool.eq_false_iff]
    intro h
    rw [Simulation.lt_iff, Simulation.rational_zero] at h
    exact absurd h hpos.not_gt
  simp only [normaliseAmountOf, hread, Decimal.order, hlt, hgt]
  simp

theorem normaliseAmountOf_not_positive {d : PyDecimal} (hread : amount.read py = some (.finite d))
    (hle : rational d ≤ 0) :
    normaliseAmountOf py amount = .error (.raised (.domain "报销金额必须大于 0。")) := by
  have hgt : PyDecimal.zero.lt d = false := by
    rw [Bool.eq_false_iff]
    intro h
    rw [Simulation.lt_iff, Simulation.rational_zero] at h
    exact absurd h hle.not_gt
  simp only [normaliseAmountOf, hread, Decimal.order, hgt]
  cases d.lt .zero <;> simp

theorem quantizeHundredths_fits {d : PyDecimal} :
    (do
      let cents ← quantizeHundredths d
      fitsColumn cents
      return cents) =
      if (d.quantize 2).coefficient.natAbs < 10 ^ 12 then .ok (d.quantize 2).coefficient
      else .error .invalidOperation := by
  unfold quantizeHundredths fitsColumn
  simp only
  generalize (d.quantize 2).coefficient = c
  by_cases hwide : c.natAbs < 10 ^ 28
  · rw [if_pos hwide]
    by_cases hfit : c.natAbs < 10 ^ 12
    · rw [if_pos hfit]
      exact bind_eq_ok.2 ⟨c, rfl, bind_eq_ok.2 ⟨(), if_pos hfit, rfl⟩⟩
    · rw [if_neg hfit]
      simp only [Bind.bind, Except.bind, if_neg hfit]
  · have hfit : ¬ c.natAbs < 10 ^ 12 := by
      intro h
      exact hwide (h.trans (by norm_num))
    rw [if_neg hwide, if_neg hfit]
    rfl

/-- What is stored of a positive decimal. -/
theorem storedCents_positive {d : PyDecimal} (hread : amount.read py = some (.finite d))
    (hpos : 0 < rational d) : storedCents py amount =
      if (d.quantize 2).coefficient.natAbs < 10 ^ 12 then .ok (d.quantize 2).coefficient
      else .error .invalidOperation := by
  rw [storedCents, normaliseAmountOf_finite hread hpos]
  exact quantizeHundredths_fits

theorem storedCents_of_error {e : SubmitError} (h : normaliseAmountOf py amount = .error e) :
    storedCents py amount = .error e := by
  rw [storedCents, h]
  rfl

/-- A positive decimal is never rounded below zero. -/
theorem quantize_nonneg {d : PyDecimal} (hpos : 0 < rational d) :
    0 ≤ (d.quantize 2).coefficient := by
  by_contra hneg
  have hle : (d.quantize 2).coefficient ≤ -1 := by omega
  rcases (quantize_halfEven d).le_iff.1 hle with h | ⟨h, -⟩
  · push_cast at h
    linarith
  · push_cast at h
    linarith

/-- The amounts that end in the promised way: stored within bounds and close, or refused. -/
def KeptOrRefused (py : Python) (amount : Amount) (r : Except SubmitError Int) : Prop :=
  (∃ message, r = .error (.raised (.domain message))) ∨
    ∃ cents q, r = .ok cents ∧ 1 ≤ cents ∧ cents < 10 ^ 12 ∧ amount.value py = some q ∧
      |q - cents / 100| ≤ 1 / 200

/-- The text is no number, or the number is not positive; or the number is rounded to at least one
hundredth and within the column, and the value handed in lies with it. -/
def WellAmount (py : Python) (amount : Amount) : Prop :=
  amount.read py = none ∨ amount.read py = some (.infinity true) ∨
    ∃ d, amount.read py = some (.finite d) ∧ (rational d ≤ 0 ∨
      1 / 200 < rational d ∧ rational d < 9999999999995 / 1000 ∧
        ∃ q, amount.value py = some q ∧ SameSide (100 * q) (100 * rational d))

theorem not_keptOrRefused_invalidOperation :
    ¬ KeptOrRefused py amount (.error .invalidOperation) := by
  rintro (⟨message, h⟩ | ⟨c, q, h, -⟩)
  · cases h
  · cases h

theorem one_le_quantize {d : PyDecimal} :
    1 ≤ (d.quantize 2).coefficient ↔ 1 / 200 < rational d := by
  have hiff := (quantize_halfEven d).lt_iff (k := 0)
  have hpos : 1 ≤ (d.quantize 2).coefficient ↔ 0 < (d.quantize 2).coefficient := Iff.rfl
  rw [hpos, hiff]
  simp only [Int.cast_zero, mul_zero, zero_add, Int.not_odd_zero, and_false, or_false]
  constructor
  · intro h
    linarith
  · intro h
    linarith

theorem quantize_lt {d : PyDecimal} :
    (d.quantize 2).coefficient < 10 ^ 12 ↔ rational d < 9999999999995 / 1000 := by
  have hiff := (quantize_halfEven d).le_iff (k := 10 ^ 12 - 1)
  have hodd : ¬ Even ((10 : Int) ^ 12 - 1) := by decide
  rw [show (d.quantize 2).coefficient < 10 ^ 12 ↔ (d.quantize 2).coefficient ≤ 10 ^ 12 - 1 by omega,
    hiff]
  simp only [hodd, and_false, or_false]
  push_cast
  constructor
  · intro h
    linarith
  · intro h
    linarith

theorem close_iff {q : ℚ} {d : PyDecimal} :
    |q - (d.quantize 2).coefficient / 100| ≤ 1 / 200 ↔ SameSide (100 * q) (100 * rational d) := by
  rw [← (quantize_halfEven d).close_iff]
  have hscale : 100 * q - (d.quantize 2).coefficient =
      100 * (q - (d.quantize 2).coefficient / 100) := by ring
  rw [hscale, abs_mul, abs_of_pos (by norm_num : (0 : ℚ) < 100)]
  constructor
  · intro h
    linarith
  · intro h
    linarith

/-- **An amount ends in the promised way exactly when it is one of the well-behaved ones.** -/
theorem storedCents_iff :
    KeptOrRefused py amount (storedCents py amount) ↔ WellAmount py amount := by
  cases hread : amount.read py with
  | none =>
    have herr : storedCents py amount = .error (.raised (.domain "报销金额格式无效。")) :=
      storedCents_of_error (by rw [normaliseAmountOf, hread])
    exact ⟨fun _ => .inl hread, fun _ => .inl ⟨_, herr⟩⟩
  | some value =>
    cases value with
    | infinity negative =>
      cases negative with
      | true =>
        have herr : storedCents py amount = .error (.raised (.domain "报销金额必须大于 0。")) :=
          storedCents_of_error (by rw [normaliseAmountOf, hread]; rfl)
        exact ⟨fun _ => .inr (.inl hread), fun _ => .inl ⟨_, herr⟩⟩
      | false =>
        rw [storedCents_of_error (e := .invalidOperation) (by rw [normaliseAmountOf, hread]; rfl)]
        refine ⟨fun h => absurd h not_keptOrRefused_invalidOperation, fun h => ?_⟩
        simp [WellAmount, hread] at h
    | nan signaling =>
      rw [storedCents_of_error (e := .invalidOperation) (by rw [normaliseAmountOf, hread]; rfl)]
      refine ⟨fun h => absurd h not_keptOrRefused_invalidOperation, fun h => ?_⟩
      simp [WellAmount, hread] at h
    | finite d =>
      by_cases hpos : 0 < rational d
      · rw [storedCents_positive hread hpos]
        have hnonneg := quantize_nonneg hpos
        constructor
        · intro h
          split at h
          · obtain ⟨message, h⟩ | ⟨c, q, hc, hone, hlt, hvalue, hclose⟩ := h
            · cases h
            · obtain rfl := Except.ok.inj hc
              exact .inr (.inr ⟨d, hread, .inr
                ⟨one_le_quantize.1 hone, quantize_lt.1 hlt, q, hvalue, close_iff.1 hclose⟩⟩)
          · exact absurd h not_keptOrRefused_invalidOperation
        · rintro (h | h | ⟨d', hd', hwell⟩)
          · rw [hread] at h
            cases h
          · rw [hread] at h
            cases h
          · obtain rfl : d = d' := by simpa [hread] using hd'
            rcases hwell with hle | ⟨hone, hlt, q, hvalue, hside⟩
            · exact absurd hpos hle.not_gt
            · have hlt' := quantize_lt.2 hlt
              rw [if_pos (by omega)]
              exact .inr ⟨_, q, rfl, one_le_quantize.2 hone, hlt', hvalue, close_iff.2 hside⟩
      · have herr := storedCents_of_error (normaliseAmountOf_not_positive hread (not_lt.1 hpos))
        exact ⟨fun _ => .inr (.inr ⟨d, hread, .inl (not_lt.1 hpos)⟩), fun _ => .inl ⟨_, herr⟩⟩

/-! ## The submission -/

/-- Everything but the amount of a submission is in order. -/
structure OtherwiseInOrder (env : FilesEnv) (files : FileRuntime) (claimant : Member)
    (args : ClaimArgs) (evidence : ExpenseClaim → Except Error Unit) (db : FinanceDb rt) :
    Prop where
  member : claimant.status ≠ .suspended ∧ claimant.status ≠ .exited
  category : ∃ category, ExpenseCategory.ofValue args.category = some category
  date : ∃ day, submittedExpenseDate env.toFinanceEnv args.expenseDate = .ok day
  currency : ∃ currency, normaliseCurrency files args.currency = .ok currency
  title : ¬ blank args.title
  evidence : ∀ claim, evidence claim = .ok ()
  claimId : ∀ c ∈ db.claims.rows, c.claimId ≠ "expense-claim-" ++ env.hex
  eventId : ∀ e ∈ db.publicEvents.rows,
    e.eventId ≠ "expense-claim-submitted-" ++ ("expense-claim-" ++ env.hex)

theorem expenseClaimFacts_factOk (claim : ExpenseClaim) (claimant : Member) :
    ∀ f ∈ expenseClaimFacts claim claimant, FactOk f := by
  have hkeys : ∀ key ∈ ["source", "claim_id", "title", "amount", "currency", "category",
      "category_label", "status", "status_label", "claimant_public_name"], FreeKey key := by
    decide
  intro f hf
  have hkey : ∃ s, f.2 = .str s ∧ f.1 ∈ ["source", "claim_id", "title", "amount", "currency",
      "category", "category_label", "status", "status_label", "claimant_public_name"] := by
    simp only [expenseClaimFacts, List.mem_cons, List.not_mem_nil, or_false] at hf
    rcases hf with rfl | rfl | rfl | rfl | rfl | rfl | rfl | rfl | rfl | rfl <;> simp
  obtain ⟨s, hs, hmem⟩ := hkey
  rw [show f = (f.1, .str s) by rw [← hs]]
  exact factOk_str (hkeys _ hmem) s

/-- The events of a new claim can be written. -/
theorem announceClaim_of_fresh {claim : ExpenseClaim} (hstatus : claim.status = .submitted)
    (htitle : ¬ blank claim.title)
    (hfresh : ∀ e ∈ db.publicEvents.rows, e.eventId ≠ "expense-claim-submitted-" ++ claim.claimId) :
    ∃ db', announceClaim env claimant claim db = .ok (db', ()) ∧ db'.claims = db.claims := by
  have hcheck : checkRequest rt {
      eventType := "expense_claim_submitted"
      aggregateType := "ExpenseClaim"
      aggregateId := claim.claimId
      actorMember := some claimant.pk
      payloadJson := expenseClaimPayload claim claimant
      now := env.now } = .ok () := by
    refine checkRequest_publicEventPayload rfl (by decide)
      (not_blank_publicRef (c := 'e') (by decide) (by decide) (by decide) _) htitle (by decide) ?_
      ?_ (expenseClaimFacts_factOk _ _) ?_
    · rw [hstatus]
      decide
    · simp only [String.append_assoc]
      exact not_blank_append (c := '报') (by decide) (by decide) _
    · simp only [List.forall_mem_cons, List.not_mem_nil, false_imp_iff, implies_true, and_true]
      exact commitmentOk _ _ _
  let row : PublicEvent := ⟨"expense-claim-submitted-" ++ claim.claimId, "收到报销申请",
    publicName claimant ++ " 提交报销《" ++ claim.title ++ "》" ++ amountText claim.amount ++ " " ++
      claim.currency ++ "。", expenseClaimFacts claim claimant⟩
  obtain ⟨publicEvents, hinsert, -⟩ :=
    Table.insert_of_fresh (t := db.publicEvents) (r := row) (e := Error.integrity) hfresh
      fun a ha => by cases ha
  obtain ⟨events, hevents, -⟩ := db.events.append_of_checkRequest hcheck
  refine ⟨{ db with publicEvents := publicEvents, events := events }, ?_, rfl⟩
  refine bind_eq_ok.2 ⟨{ db with publicEvents := publicEvents }, ?_, ?_⟩
  · exact bind_eq_ok.2 ⟨publicEvents, hinsert, rfl⟩
  · exact bind_eq_ok.2 ⟨events, hevents, rfl⟩

theorem storedCents_eq_error {e : SubmitError} (h : storedCents py amount = .error e) :
    normaliseAmountOf py amount = .error e ∨
      ∃ c, normaliseAmountOf py amount = .ok c ∧ fitsColumn c = .error e := by
  unfold storedCents at h
  cases hn : normaliseAmountOf py amount with
  | error e' =>
    rw [hn] at h
    exact .inl h
  | ok c =>
    rw [hn] at h
    refine .inr ⟨c, rfl, ?_⟩
    cases hf : fitsColumn c with
    | error e' =>
      simp only [ok_bind, hf, error_bind] at h
      rw [Except.error.inj h]
    | ok u =>
      simp only [ok_bind, hf] at h
      cases h

theorem lt_nextPk {keys : List Nat} {k : Nat} (hk : k ∈ keys) : k < nextPk keys :=
  Nat.lt_succ_of_le (List.le_max_of_le' 0 hk le_rfl)

theorem raising_ok {α : Type} {r : Except Error α} {a : α} (h : r = .ok a) :
    raising r = .ok a := by
  rw [h]
  rfl

/-- The amount is the one thing that can stop a claim whose other fields are in order. -/
theorem createClaimOf_error (h : OtherwiseInOrder env files claimant args evidence db)
    {e : SubmitError} (he : storedCents py args.amount = .error e) :
    createClaimOf env files py claimant args db = .error e := by
  obtain ⟨category, hcategory⟩ := h.category
  obtain ⟨day, hday⟩ := h.date
  obtain ⟨currency, hcurrency⟩ := h.currency
  unfold createClaimOf
  rw [rejectIf_neg (by simp [h.member.1, h.member.2]), ok_bind]
  simp only [hcategory]
  rcases storedCents_eq_error he with hn | ⟨c, hn, hf⟩
  · rw [hn, error_bind]
  · rw [hn, ok_bind, raising_ok hday, ok_bind, raising_ok hcurrency, ok_bind, hf, error_bind]

theorem createClaimOf_ok (h : OtherwiseInOrder env files claimant args evidence db)
    (hc : storedCents py args.amount = .ok cents) : ∃ db' claim,
      createClaimOf env files py claimant args db = .ok (db', claim) ∧ claim.amount = cents ∧
        claim.title = args.title ∧ claim.claimId = "expense-claim-" ++ env.hex ∧
        claim.status = .submitted ∧ db'.claims.rows = db.claims.rows ++ [claim] ∧
        db'.publicEvents = db.publicEvents := by
  obtain ⟨category, hcategory⟩ := h.category
  obtain ⟨day, hday⟩ := h.date
  obtain ⟨currency, hcurrency⟩ := h.currency
  obtain ⟨c, hn, hc⟩ := bind_eq_ok.1 hc
  obtain ⟨u, hf, hc⟩ := bind_eq_ok.1 hc
  obtain rfl := pure_eq_ok.1 hc
  let claim : ExpenseClaim := {
    pk := nextPk (db.claims.rows.map ExpenseClaim.pk)
    claimId := "expense-claim-" ++ env.hex
    claimantMember := claimant.pk
    title := args.title
    amount := c
    currency := currency
    category := category
    status := .submitted }
  have hpk : ∀ s ∈ db.claims.rows, s.pk ≠ claim.pk := by
    intro s hs
    exact (lt_nextPk (List.mem_map_of_mem hs)).ne
  obtain ⟨claims, hinsert, hrows⟩ :=
    Table.insert_of_fresh (t := db.claims) (r := claim) (e := Error.integrity) hpk (by
      intro a ha s hs heq
      have hid : s.claimId = claim.claimId := by
        rw [← Option.some.inj ha] at heq
        exact Option.some.inj heq
      exact h.claimId s hs hid)
  refine ⟨{ db with claims := claims }, claim, ?_, rfl, rfl, rfl, rfl, hrows, rfl⟩
  unfold createClaimOf
  rw [rejectIf_neg (by simp [h.member.1, h.member.2]), ok_bind]
  simp only [hcategory]
  rw [hn, ok_bind, raising_ok hday, ok_bind, raising_ok hcurrency, ok_bind, hf, ok_bind,
    raising_ok hinsert, ok_bind]
  rfl

/-- **With everything else in order, the amount decides**: what it raises is raised, and what is
stored of it is stored. -/
theorem submitBlock_of_inOrder (h : OtherwiseInOrder env files claimant args evidence db) :
    (∀ e, storedCents py args.amount = .error e →
      submitBlock env files py claimant args evidence db = .error e) ∧
    ∀ c, storedCents py args.amount = .ok c → ∃ db' claim,
      submitBlock env files py claimant args evidence db = .ok (db', claim) ∧ claim.amount = c ∧
        db'.claims.rows = db.claims.rows ++ [claim] := by
  constructor
  · intro e he
    rw [submitBlock, createClaimOf_error h he, error_bind]
  · intro c hc
    obtain ⟨db₁, claim, hcreate, hamount, htitle, hid, hstatus, hrows, hpublic⟩ :=
      createClaimOf_ok h hc
    obtain ⟨db₂, hannounce, hclaims⟩ : ∃ db₂, announceClaim env claimant claim db₁ =
        .ok (db₂, ()) ∧ db₂.claims = db₁.claims := by
      refine announceClaim_of_fresh hstatus (htitle ▸ h.title) ?_
      rw [hid, hpublic]
      exact h.eventId
    refine ⟨db₂, claim, ?_, hamount, by rw [hclaims, hrows]⟩
    rw [submitBlock, hcreate, ok_bind]
    simp only
    rw [raising_ok (h.evidence claim), ok_bind, raising_ok hannounce, ok_bind]
    rfl

/-- What is promised of a submission with an amount: it is refused with `DomainError` and nothing is
stored, or the claim that it stores has the amount with two decimals. -/
def AmountHandled (py : Python) (amount : Amount) (db : FinanceDb rt)
    (r : Except SubmitError ExpenseClaim × FinanceDb rt) : Prop :=
  (∃ message, r.1 = .error (.raised (.domain message)) ∧ r.2 = db) ∨
    ∃ claim q, r.1 = .ok claim ∧ r.2.claims.rows = db.claims.rows ++ [claim] ∧ 1 ≤ claim.amount ∧
      claim.amount < 10 ^ 12 ∧ amount.value py = some q ∧ |q - claim.amount / 100| ≤ 1 / 200

theorem amountHandled_iff (h : OtherwiseInOrder env files claimant args evidence db) :
    AmountHandled py args.amount db (submitClaimOf env files py claimant args evidence db) ↔
      KeptOrRefused py args.amount (storedCents py args.amount) := by
  obtain ⟨herror, hok⟩ := @submitBlock_of_inOrder _ _ _ py _ _ _ _ h
  unfold submitClaimOf
  cases hstored : storedCents py args.amount with
  | error e =>
    rw [herror e hstored]
    constructor
    · rintro (⟨message, he, -⟩ | ⟨claim, q, hclaim, -⟩)
      · exact .inl ⟨message, congrArg Except.error (Except.error.inj he)⟩
      · cases hclaim
    · rintro (⟨message, he⟩ | ⟨c, q, hc, -⟩)
      · exact .inl ⟨message, congrArg Except.error (Except.error.inj he), rfl⟩
      · cases hc
  | ok c =>
    obtain ⟨db', claim, hblock, rfl, hrows⟩ := hok c hstored
    rw [hblock]
    constructor
    · rintro (⟨message, he, -⟩ | ⟨claim', q, hclaim, -, hone, hlt, hvalue, hclose⟩)
      · cases he
      · obtain rfl := Except.ok.inj hclaim
        exact .inr ⟨_, q, rfl, hone, hlt, hvalue, hclose⟩
    · rintro (⟨message, he⟩ | ⟨c, q, hc, hone, hlt, hvalue, hclose⟩)
      · cases he
      · obtain rfl := Except.ok.inj hc
        exact .inr ⟨claim, q, rfl, hrows, hone, hlt, hvalue, hclose⟩

def asciiPython : Python := ⟨textRuntime, .asciiOnly⟩

/-- A claim for the given amount. -/
def claimOf (amount : Amount) : ClaimArgs := { title := "纸", amount, expenseDate := .date 0 }

theorem claimOf_inOrder (amount : Amount) :
    OtherwiseInOrder portraitEnv plainFiles sitter (claimOf amount) (fun _ => .ok ())
      emptyFiles.db.finance where
  member := by decide
  category := ⟨.other, show ExpenseCategory.ofValue "other" = some .other by decide⟩
  date := ⟨0, rfl⟩
  currency := ⟨"CNY", show normaliseCurrency plainFiles "CNY" = .ok "CNY" by decide⟩
  title := show ¬ blank "纸" by decide
  evidence := fun _ => rfl
  claimId := fun c hc => by cases hc
  eventId := fun e he => by cases he

/-- A claim for the amount is handled as promised. -/
def ClaimHandled (amount : Amount) : Prop :=
  AmountHandled asciiPython amount emptyFiles.db.finance
    (submitClaimOf portraitEnv plainFiles asciiPython sitter (claimOf amount)
      (fun _ => .ok ()) emptyFiles.db.finance)

theorem claimHandled_iff {amount : Amount} : ClaimHandled amount ↔
    KeptOrRefused asciiPython amount (storedCents asciiPython amount) :=
  amountHandled_iff (claimOf_inOrder amount)

theorem not_claimHandled_of_invalidOperation {amount : Amount}
    (h : storedCents asciiPython amount = .error .invalidOperation) : ¬ ClaimHandled amount := by
  rw [claimHandled_iff, h]
  exact not_keptOrRefused_invalidOperation

end LiveOs.Finance
