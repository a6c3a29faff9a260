import BacktestDesk.Proofs.DoubleValue
import BacktestDesk.Proofs.RequestWire
import BacktestDesk.Proofs.Traversal

/-!
# BacktestDesk.Proofs.RuleOrder

What a configuration is blamed for. `Request.rules` lists the conditions on a request, stated for
its numbers, days and names, in the order in which they are looked at.

* `FirstBroken`: all rules of a list hold, or the first that does not is blamed.
* `Request.firstBroken_violation?`: the checks of a request blame the first of its rules.
* `Request.built_by_rules`: so does the builder, which accepts all other requests.
-/

namespace BacktestDesk

open Calendar

/-! ## Rules -/

/-- A condition, and what is said of a configuration that breaks it. -/
structure Rule where
  holds : Prop
  complaint : String

namespace Rule

def whole (name : String) (n least greatest : Nat) : Rule :=
  ⟨least ≤ n ∧ n ≤ greatest,
    name ++ " must be between " ++ toString least ++ " and " ++ toString greatest ++ ", got " ++
      toString n⟩

/-- A finite number from `a` to `b`, which are written as `least` and `greatest`. -/
def real (name : String) (x : Double) (least greatest : String) (a b : ℚ) : Rule :=
  ⟨∃ q, x.value? = some q ∧ a ≤ q ∧ q ≤ b,
    name ++ " must be between " ++ least ++ " and " ++ greatest ++ ", got " ++ x.plain⟩

def nonNegative (name : String) (x : Double) : Rule :=
  ⟨∃ q, x.value? = some q ∧ 0 ≤ q, name ++ " must be a non-negative number, got " ++ x.plain⟩

/-- One rule for each model; `first` is the number of the first. -/
def models (first : Nat) (names : List String) : List Rule :=
  (names.zipIdx first).map fun e =>
    ⟨Text.trim e.1 ≠ "", "model #" ++ toString e.2 ++ " is blank"⟩

end Rule

def DayRange.rules (r : DayRange) : List Rule :=
  [⟨∃ c ∈ r.coin.toList, Text.isBlank c = false, "coin must not be empty"⟩,
   ⟨r.first.key ≤ r.last.key,
    "from (" ++ r.first.text ++ ") is after to (" ++ r.last.text ++ ")"⟩]

def Backtest.rules (b : Backtest) : List Rule :=
  b.range.rules ++
    [⟨b.interval ∈ [1, 2, 3, 5, 10, 15, 20, 25, 30],
      "interval " ++ toString b.interval ++ " is not one of [1, 2, 3, 5, 10, 15, 20, 25, 30]"⟩,
     .whole "prev" b.prev 0 10,
     .whole "next" b.next 0 10,
     .real "threshold" b.threshold "0" "1" 0 1]

def RiskLimits.rules (r : RiskLimits) : List Rule :=
  [.nonNegative "buffer_time" r.bufferTime,
   .nonNegative "price_threshold" r.priceThreshold,
   .nonNegative "stop_loss" r.stopLoss,
   .nonNegative "take_profit" r.takeProfit]

def Training.rules (t : Training) : List Rule :=
  t.range.rules ++
    (Rule.models 1 t.models ++
      [.real "precision" t.precision "0" "1" 0 1,
       .whole "size" t.size 10 1000,
       .whole "buffer" t.buffer 10 100,
       .whole "features" t.features 1 10,
       .whole "look_back" t.lookBack 3 30,
       .whole "look_ahead" t.lookAhead 1 30,
       .real "gap" t.gap "0.5" "1" (1 / 2) 1]) ++
    t.risk.rules

/-- The conditions on a request, in the order in which they are looked at. -/
def Request.rules : Request → List Rule
  | .run config => config.rules
  | .train config => config.rules
  | .load range => range.rules
  | .history range => range.rules
  | .models => []

/-! ## The first broken rule -/

/-- Nothing is said where all rules hold; else what is said is said of the first that does not. -/
def FirstBroken (rules : List Rule) : Check → Prop
  | none => ∀ rule ∈ rules, rule.holds
  | some violation =>
    ∃ rule, FirstFailing Rule.holds rules rule ∧ violation.message = rule.complaint

/-- A list of checks says of rules what there is to say. -/
abbrev Enforces (checks : List Check) (rules : List Rule) : Prop :=
  FirstBroken rules (checks.findSome? id)

namespace FirstBroken

theorem append {rules rules' : List Rule} {c c' : Check} (h : FirstBroken rules c)
    (h' : FirstBroken rules' c') : FirstBroken (rules ++ rules') (c.or c') := by
  cases c with
  | some v =>
    obtain ⟨rule, hfirst, hv⟩ := h
    exact ⟨rule, hfirst.append_right rules', hv⟩
  | none =>
    cases c' with
    | none => exact List.forall_mem_append.mpr ⟨h, h'⟩
    | some v =>
      obtain ⟨rule, hfirst, hv⟩ := h'
      exact ⟨rule, .append_left h hfirst, hv⟩

theorem eq_none_iff {rules : List Rule} {c : Check} (h : FirstBroken rules c) :
    c = none ↔ ∀ rule ∈ rules, rule.holds := by
  cases c with
  | none => exact iff_of_true rfl h
  | some v =>
    obtain ⟨rule, hfirst, -⟩ := h
    exact iff_of_false (Option.some_ne_none v) hfirst.not_all

theorem check {rule : Rule} {holds : Bool} {violation : Violation}
    (h : holds = true ↔ rule.holds) (hcomplaint : violation.message = rule.complaint) :
    FirstBroken [rule] (check holds violation) := by
  cases holds with
  | true => exact List.forall_mem_singleton.mpr (h.mp rfl)
  | false => exact ⟨rule, .singleton fun hr => Bool.noConfusion (h.mpr hr), hcomplaint⟩

theorem checkWhole (name : String) (n least greatest : Nat) :
    FirstBroken [.whole name n least greatest] (checkWhole name n least greatest) :=
  check (by simp [Rule.whole]) rfl

theorem checkReal (name : String) (x : Double) {least greatest : Double} {a b : ℚ}
    (ha : least.value? = some a) (hb : greatest.value? = some b) :
    FirstBroken [.real name x least.plain greatest.plain a b]
      (checkReal name x least greatest) :=
  check (Double.between_iff ha hb) rfl

theorem checkNonNegative (name : String) (x : Double) :
    FirstBroken [.nonNegative name x] (checkNonNegative name x) :=
  check Double.nonNegative_iff rfl

/-- The scan stops at the first blank model and gives its number, counted from any first one. -/
theorem findIdx?_blank (names : List String) (first : Nat) :
    FirstBroken (Rule.models first names)
      ((names.findIdx? Text.isBlankText).map fun i => .blankModel (i + first)) := by
  induction names generalizing first with
  | nil => exact List.forall_mem_nil _
  | cons name names ih =>
    have hblank : (!Text.isBlankText name) = true ↔ Text.trim name ≠ "" := by
      simp only [ne_eq, Text.trim_eq_empty_iff, Bool.not_eq_true', Bool.not_eq_true]
    have hname : FirstBroken
        [⟨Text.trim name ≠ "", "model #" ++ toString first ++ " is blank"⟩]
        (BacktestDesk.check (!Text.isBlankText name) (.blankModel first)) := check hblank rfl
    have hall := hname.append (ih (first + 1))
    have hstep : ∀ i, i + 1 + first = i + (first + 1) := fun i => by omega
    rw [List.findIdx?_cons]
    cases hblank : Text.isBlankText name with
    | true =>
      rw [hblank] at hall
      simpa [Rule.models, BacktestDesk.check] using hall
    | false =>
      rw [hblank] at hall
      simpa [Rule.models, BacktestDesk.check, Function.comp_def, hstep] using hall

theorem checkModels (names : List String) :
    FirstBroken (Rule.models 1 names) (checkModels names) :=
  findIdx?_blank names 1

end FirstBroken

namespace Enforces

theorem nil : Enforces [] [] :=
  List.forall_mem_nil _

theorem cons {rules rules' : List Rule} {c : Check} {checks : List Check} (h : FirstBroken rules c)
    (h' : Enforces checks rules') : Enforces (c :: checks) (rules ++ rules') := by
  have hall := h.append h'
  cases c <;> exact hall

theorem append {rules rules' : List Rule} {checks checks' : List Check} (h : Enforces checks rules)
    (h' : Enforces checks' rules') : Enforces (checks ++ checks') (rules ++ rules') := by
  rw [Enforces, List.findSome?_append]
  exact FirstBroken.append h h'

end Enforces

/-! ## Requests -/

theorem plain_zero : Double.zero.plain = "0" := by decide +kernel

theorem plain_one : Double.one.plain = "1" := by decide +kernel

theorem plain_half : half.plain = "0.5" := by decide +kernel

theorem value?_half : half.value? = some (1 / 2) := by
  have hcode : half = .ofCode false (1022 * Double.binade) := by decide +kernel
  have hunits : Double.units (1022 * Double.binade) = 2 ^ 1073 := by decide +kernel
  rw [hcode]
  refine Double.value?_ofCode (by decide +kernel) ?_
  have htwice : Double.unitsOfOne = 2 * 2 ^ 1073 := pow_succ' 2 1073
  rw [hunits, Nat.cast_pow, Nat.cast_ofNat, htwice, ← mul_assoc, one_div,
    inv_mul_cancel₀ two_ne_zero, one_mul]

theorem DayRange.enforces (r : DayRange) : Enforces r.checks r.rules := by
  have hcoin : (!Text.isBlankText r.coin) = true ↔
      ∃ c ∈ r.coin.toList, Text.isBlank c = false := by
    simp [Text.isBlankText]
  exact .cons (.check hcoin rfl) (.cons (.check Date.le_iff rfl) .nil)

theorem Backtest.enforces (b : Backtest) : Enforces b.checks b.rules := by
  have hinterval : intervals.contains b.interval = true ↔
      b.interval ∈ [1, 2, 3, 5, 10, 15, 20, 25, 30] := List.contains_iff_mem
  have hknown : ", ".intercalate (intervals.map toString) = "1, 2, 3, 5, 10, 15, 20, 25, 30" := by
    decide
  have hcomplaint : (Violation.interval b.interval).message =
      "interval " ++ toString b.interval ++ " is not one of [1, 2, 3, 5, 10, 15, 20, 25, 30]" := by
    rw [Violation.message, hknown]
    simp [String.append_assoc]
  have hthreshold := FirstBroken.checkReal "threshold" b.threshold Double.value?_zero
    Double.value?_one
  rw [plain_zero, plain_one] at hthreshold
  exact b.range.enforces.append
    (.cons (.check hinterval hcomplaint)
    (.cons (.checkWhole "prev" b.prev 0 10)
    (.cons (.checkWhole "next" b.next 0 10)
    (.cons hthreshold .nil))))

theorem RiskLimits.enforces (r : RiskLimits) : Enforces r.checks r.rules :=
  .cons (.checkNonNegative "buffer_time" r.bufferTime)
    (.cons (.checkNonNegative "price_threshold" r.priceThreshold)
    (.cons (.checkNonNegative "stop_loss" r.stopLoss)
    (.cons (.checkNonNegative "take_profit" r.takeProfit) .nil)))

theorem Training.enforces (t : Training) : Enforces t.checks t.rules := by
  have hprecision := FirstBroken.checkReal "precision" t.precision Double.value?_zero
    Double.value?_one
  rw [plain_zero, plain_one] at hprecision
  have hgap := FirstBroken.checkReal "gap" t.gap value?_half Double.value?_one
  rw [plain_half, plain_one] at hgap
  exact .append (.append t.range.enforces
    (.cons (.checkModels t.models)
    (.cons hprecision
    (.cons (.checkWhole "size" t.size 10 1000)
    (.cons (.checkWhole "buffer" t.buffer 10 100)
    (.cons (.checkWhole "features" t.features 1 10)
    (.cons (.checkWhole "look_back" t.lookBack 3 30)
    (.cons (.checkWhole "look_ahead" t.lookAhead 1 30)
    (.cons hgap .nil)))))))))
    t.risk.enforces

namespace Request

theorem firstBroken_violation? (r : Request) : FirstBroken r.rules r.violation? := by
  cases r with
  | run b => exact b.enforces
  | train t => exact t.enforces
  | load range => exact range.enforces
  | history range => exact range.enforces
  | models => exact Enforces.nil

theorem exists_build_iff {r : Request} : (∃ ps, r.build = .ok ps) ↔ r.violation? = none := by
  rw [build]
  cases r.violation? <;> simp

theorem violation_of_build_error {r : Request} {e : Failure} (h : r.build = .error e) :
    ∃ v, r.violation? = some v ∧ e = .invalidConfig v.message := by
  rw [build] at h
  cases hv : r.violation? with
  | none =>
    rw [hv] at h
    cases h
  | some v =>
    rw [hv] at h
    cases h
    exact ⟨v, rfl, rfl⟩

/-- A request is built exactly when it keeps its rules. For every request, whatever its numbers are:

* it is built exactly when all conditions on it hold, as conditions on numbers, days and names;
* otherwise it is refused for the first condition that does not hold, all before it holding, with
  what is said of this condition. -/
theorem built_by_rules (r : Request) :
    ((∃ ps, r.build = .ok ps) ↔ ∀ rule ∈ r.rules, rule.holds) ∧
    ∀ e, r.build = .error e →
      ∃ rule, FirstFailing Rule.holds r.rules rule ∧ e = .invalidConfig rule.complaint := by
  have hfirst := r.firstBroken_violation?
  refine ⟨exists_build_iff.trans hfirst.eq_none_iff, fun e he => ?_⟩
  obtain ⟨v, hv, rfl⟩ := violation_of_build_error he
  rw [hv] at hfirst
  obtain ⟨rule, hrule, hcomplaint⟩ := hfirst
  exact ⟨rule, hrule, by rw [hcomplaint]⟩

end Request
end BacktestDesk
