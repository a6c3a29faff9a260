import BacktestDesk.CommandLine
import Mathlib.Data.List.Basic

/-!
# BacktestDesk.Proofs.CommandFields

Command lines read field by field. A command line is a command and flags, each a name with a value;
`Given` says which request they give, field after field and in no order of reading.

* `flags_ok_iff`: the flags of a command line, told from its words.
* `number_ok_iff`, `date_ok_iff`: a field holds the last value of its flag, or its default.
* `request_ok_iff`, `exists_request_iff`: the request that flags give, and when there is one.
* `request_congr`: of the flags, only the values of each name count.
* `read_field_by_field`: all of this, of whole command lines.
-/

namespace BacktestDesk

open Calendar

theorem bind_ok_iff {ε α β : Type} {x : Except ε α} {f : α → Except ε β} {b : β} :
    (x >>= f) = .ok b ↔ ∃ a, x = .ok a ∧ f a = .ok b := by
  cases x <;> simp [bind, Except.bind]

theorem map_ok_iff {ε α β : Type} {x : Except ε α} {f : α → β} {b : β} :
    x.map f = .ok b ↔ ∃ a, x = .ok a ∧ f a = b := by
  cases x <;> simp [Except.map]

namespace CommandLine

/-! ## Flags of a command line -/

/-- The words of flags: each name behind two dashes, and its value, whatever it looks like. -/
def words (fs : Flags) : List String :=
  fs.flatMap fun f => ["--" ++ f.1, f.2]

theorem words_cons (name value : String) (fs : Flags) :
    words ((name, value) :: fs) = ("--" ++ name) :: value :: words fs := rfl

theorem flagName?_eq_some_iff {word name : String} :
    flagName? word = some name ↔ word = "--" ++ name := by
  have hword : word = "--" ++ name ↔ word.toList = '-' :: '-' :: name.toList := by
    rw [← String.toList_inj, String.toList_append]
    rfl
  rw [hword, flagName?]
  split
  · rename_i found h
    simp [h, ← String.toList_inj]
  · rename_i h
    simp only [reduceCtorEq, false_iff]
    exact h name.toList

theorem checkName_ok_iff {names : List String} {word name : String} :
    checkName names word = .ok name ↔ word = "--" ++ name ∧ name ∈ names := by
  rw [← flagName?_eq_some_iff, checkName]
  cases flagName? word with
  | none => simp
  | some found =>
    simp only [List.contains_iff_mem, Option.some.injEq]
    split
    · rename_i hmem
      simp only [Except.ok.injEq]
      exact ⟨fun h => ⟨h, h ▸ hmem⟩, And.left⟩
    · rename_i hmem
      simp only [reduceCtorEq, false_iff, not_and]
      rintro rfl
      exact hmem

theorem flags_words {names : List String} {fs : Flags} (h : ∀ f ∈ fs, f.1 ∈ names) :
    flags names (words fs) = .ok fs := by
  induction fs with
  | nil => rfl
  | cons f fs ih =>
    obtain ⟨hmem, hrest⟩ := List.forall_mem_cons.mp h
    have hname : checkName names ("--" ++ f.1) = .ok f.1 := checkName_ok_iff.mpr ⟨rfl, hmem⟩
    rw [words_cons, flags, hname, ih hrest]

theorem words_of_flags {names rest : List String} {fs : Flags} (h : flags names rest = .ok fs) :
    rest = words fs ∧ ∀ f ∈ fs, f.1 ∈ names := by
  fun_induction flags names rest generalizing fs with
  | case1 =>
    obtain rfl := Except.ok.inj h
    simp [words]
  | case6 word value rest name hname found hfound ih =>
    obtain rfl := Except.ok.inj h
    obtain ⟨rfl, hmem⟩ := checkName_ok_iff.mp hname
    obtain ⟨rfl, hrest⟩ := ih hfound
    exact ⟨rfl, List.forall_mem_cons.mpr ⟨hmem, hrest⟩⟩
  | case2 | case3 | case4 | case5 => cases h

theorem flags_ok_iff {names rest : List String} {fs : Flags} :
    flags names rest = .ok fs ↔ rest = words fs ∧ ∀ f ∈ fs, f.1 ∈ names := by
  refine ⟨words_of_flags, ?_⟩
  rintro ⟨rfl, h⟩
  exact flags_words h

theorem words_injective {fs fs' : Flags} (h : words fs = words fs') : fs = fs' := by
  let names := (fs ++ fs').map Prod.fst
  have hnames : ∀ f ∈ fs ++ fs', f.1 ∈ names := fun _ hf => List.mem_map_of_mem hf
  have hleft := flags_words fun f hf => hnames f (List.mem_append_left fs' hf)
  have hright := flags_words fun f hf => hnames f (List.mem_append_right fs hf)
  rw [h, hright] at hleft
  exact (Except.ok.inj hleft).symm

/-! ## The value that counts -/

/-- The last value of a flag: whatever follows it has other names. -/
def IsLast (fs : Flags) (name raw : String) : Prop :=
  ∃ before after, fs = before ++ (name, raw) :: after ∧ ∀ f ∈ after, f.1 ≠ name

def IsAbsent (fs : Flags) (name : String) : Prop :=
  ∀ f ∈ fs, f.1 ≠ name

theorem values_eq_nil_iff {fs : Flags} {name : String} :
    values fs name = [] ↔ IsAbsent fs name := by
  simp [values, IsAbsent, List.filter_eq_nil_iff]

theorem values_append (fs fs' : Flags) (name : String) :
    values (fs ++ fs') name = values fs name ++ values fs' name := by
  simp [values]

theorem values_cons_self (name raw : String) (fs : Flags) :
    values ((name, raw) :: fs) name = raw :: values fs name := by
  simp [values]

theorem last?_eq_none_iff {fs : Flags} {name : String} :
    last? fs name = none ↔ IsAbsent fs name := by
  rw [last?, List.getLast?_eq_none_iff, values_eq_nil_iff]

theorem last?_of_isLast {fs : Flags} {name raw : String} (h : IsLast fs name raw) :
    last? fs name = some raw := by
  obtain ⟨before, after, rfl, hafter⟩ := h
  rw [last?, values_append, values_cons_self, values_eq_nil_iff.mpr hafter, List.getLast?_concat]

theorem isLast_of_last? {fs : Flags} {name raw : String} (h : last? fs name = some raw) :
    IsLast fs name raw := by
  obtain ⟨earlier, hvalues⟩ := List.getLast?_eq_some_iff.mp h
  obtain ⟨_, shown, hshown, -, hraw⟩ := List.map_eq_append_iff.mp hvalues
  obtain ⟨before, after, rfl, -, hafter⟩ := List.filter_eq_append_iff.mp hshown
  obtain ⟨f, _, rfl, rfl, htail⟩ := List.map_eq_cons_iff.mp hraw
  obtain rfl := List.map_eq_nil_iff.mp htail
  obtain ⟨between, after, rfl, -, hname, hafter⟩ := List.filter_eq_cons_iff.mp hafter
  obtain rfl := eq_of_beq hname
  refine ⟨before ++ between, after, by simp, fun g hg => ?_⟩
  simpa using List.filter_eq_nil_iff.mp hafter g hg

/-- What a field holds: what the last value of its flag reads as, or its default. -/
inductive Fills {ε α : Type} (fs : Flags) (name : String) (read : String → Except ε α)
    (default x : α) : Prop where
  | given (raw : String) (hlast : IsLast fs name raw) (hread : read raw = .ok x)
  | absent (habsent : IsAbsent fs name) (hx : default = x)

section Fields

variable {ε α : Type} {fs : Flags} {name : String} {read : String → Except ε α} {default x : α}

theorem fills_iff :
    Fills fs name read default x ↔
      match last? fs name with
      | none => default = x
      | some raw => read raw = .ok x := by
  constructor
  · rintro (⟨raw, hlast, hread⟩ | ⟨habsent, hx⟩)
    · rwa [last?_of_isLast hlast]
    · rwa [last?_eq_none_iff.mpr habsent]
  · split
    · exact .absent (last?_eq_none_iff.mp ‹_›)
    · exact .given _ (isLast_of_last? ‹_›)

theorem number_ok_iff {read : String → Except Numeral.Fault α} :
    number read fs name default = .ok x ↔ Fills fs name read default x := by
  rw [fills_iff, number]
  cases last? fs name with
  | none => simp
  | some raw => cases h : read raw <;> simp [h]

theorem date_ok_iff {default x : Date} :
    date fs name default = .ok x ↔ Fills fs name dayOfText default x := by
  rw [fills_iff, date]
  cases last? fs name with
  | none => simp
  | some raw => cases h : dayOfText raw <;> simp [h]

/-- A text is taken as it is. -/
def verbatim : String → Except Fault String := .ok

theorem getD_last?_eq_iff {default x : String} :
    (last? fs name).getD default = x ↔ Fills fs name verbatim default x := by
  rw [fills_iff]
  cases last? fs name <;> simp [verbatim]

theorem Fills.exists_read {raw : String} (h : Fills fs name read default x)
    (hlast : IsLast fs name raw) : ∃ y, read raw = .ok y := by
  rw [fills_iff, last?_of_isLast hlast] at h
  exact ⟨x, h⟩

theorem exists_fills (default : α) (h : ∀ raw, IsLast fs name raw → ∃ y, read raw = .ok y) :
    ∃ x, Fills fs name read default x := by
  cases hlast : last? fs name with
  | none => exact ⟨default, .absent (last?_eq_none_iff.mp hlast) rfl⟩
  | some raw =>
    obtain ⟨x, hread⟩ := h raw (isLast_of_last? hlast)
    exact ⟨x, .given raw (isLast_of_last? hlast) hread⟩

end Fields

/-! ## Requests field by field -/

structure IsDayRange (fs : Flags) (default r : DayRange) : Prop where
  coin : Fills fs "coin" verbatim default.coin r.coin
  first : Fills fs "from" dayOfText default.first r.first
  last : Fills fs "to" dayOfText default.last r.last

/-- A whole number below two to the thirty-second. -/
abbrev FillsWhole (fs : Flags) (name : String) : Nat → Nat → Prop :=
  Fills fs name (Numeral.whole 0x100000000)

abbrev FillsReal (fs : Flags) (name : String) : Double → Double → Prop :=
  Fills fs name Numeral.real

structure IsBacktest (fs : Flags) (default b : Backtest) : Prop where
  range : IsDayRange fs default.range b.range
  interval : FillsWhole fs "interval" default.interval b.interval
  prev : FillsWhole fs "prev" default.prev b.prev
  next : FillsWhole fs "next" default.next b.next
  threshold : FillsReal fs "threshold" default.threshold b.threshold

structure IsRiskLimits (fs : Flags) (default l : RiskLimits) : Prop where
  bufferTime : FillsReal fs "buffer-time" default.bufferTime l.bufferTime
  priceThreshold : FillsReal fs "price-threshold" default.priceThreshold l.priceThreshold
  stopLoss : FillsReal fs "stop-loss" default.stopLoss l.stopLoss
  takeProfit : FillsReal fs "take-profit" default.takeProfit l.takeProfit

/-- Every model is kept, in order; there is no default for them. -/
structure IsTraining (fs : Flags) (default t : Training) : Prop where
  range : IsDayRange fs default.range t.range
  models : t.models = (fs.filter fun f => f.1 == "model").map Prod.snd
  precision : FillsReal fs "precision" default.precision t.precision
  size : FillsWhole fs "size" default.size t.size
  buffer : FillsWhole fs "buffer" default.buffer t.buffer
  features : FillsWhole fs "features" default.features t.features
  lookBack : FillsWhole fs "look-back" default.lookBack t.lookBack
  lookAhead : FillsWhole fs "look-ahead" default.lookAhead t.lookAhead
  gap : FillsReal fs "gap" default.gap t.gap
  risk : IsRiskLimits fs default.risk t.risk

/-- The request that flags give; `days` are those without flags for them. -/
def Given (days : Date × Date) (fs : Flags) : Request → Prop
  | .run b => IsBacktest fs (.default (.default days)) b
  | .train t => IsTraining fs (.default (.default days)) t
  | .load r => IsDayRange fs (.default days) r
  | .history r => IsDayRange fs (.default days) r
  | .models => True

variable {fs : Flags}

theorem dayRange_ok_iff {default r : DayRange} :
    dayRange fs default = .ok r ↔ IsDayRange fs default r := by
  simp only [dayRange, bind_ok_iff, date_ok_iff, pure, Except.pure, Except.ok.injEq]
  constructor
  · rintro ⟨first, hfirst, last, hlast, rfl⟩
    exact ⟨getD_last?_eq_iff.mp rfl, hfirst, hlast⟩
  · rintro ⟨hcoin, hfirst, hlast⟩
    exact ⟨r.first, hfirst, r.last, hlast, by rw [getD_last?_eq_iff.mpr hcoin]⟩

theorem backtest_ok_iff {default b : Backtest} :
    backtest fs default = .ok b ↔ IsBacktest fs default b := by
  simp only [backtest, whole, real, bind_ok_iff, dayRange_ok_iff, number_ok_iff, pure, Except.pure,
    Except.ok.injEq]
  constructor
  · rintro ⟨range, hrange, interval, hinterval, prev, hprev, next, hnext, threshold, hthreshold,
      rfl⟩
    exact ⟨hrange, hinterval, hprev, hnext, hthreshold⟩
  · rintro ⟨hrange, hinterval, hprev, hnext, hthreshold⟩
    exact ⟨_, hrange, _, hinterval, _, hprev, _, hnext, _, hthreshold, rfl⟩

theorem riskLimits_ok_iff {default l : RiskLimits} :
    riskLimits fs default = .ok l ↔ IsRiskLimits fs default l := by
  simp only [riskLimits, real, bind_ok_iff, number_ok_iff, pure, Except.pure, Except.ok.injEq]
  constructor
  · rintro ⟨time, htime, price, hprice, loss, hloss, profit, hprofit, rfl⟩
    exact ⟨htime, hprice, hloss, hprofit⟩
  · rintro ⟨htime, hprice, hloss, hprofit⟩
    exact ⟨_, htime, _, hprice, _, hloss, _, hprofit, rfl⟩

theorem training_ok_iff {default t : Training} :
    training fs default = .ok t ↔ IsTraining fs default t := by
  simp only [training, whole, real, bind_ok_iff, riskLimits_ok_iff, dayRange_ok_iff, number_ok_iff,
    pure, Except.pure, Except.ok.injEq]
  constructor
  · rintro ⟨risk, hrisk, range, hrange, precision, hprecision, size, hsize, buffer, hbuffer,
      features, hfeatures, back, hback, ahead, hahead, gap, hgap, rfl⟩
    exact ⟨hrange, rfl, hprecision, hsize, hbuffer, hfeatures, hback, hahead, hgap, hrisk⟩
  · rintro ⟨hrange, hmodels, hprecision, hsize, hbuffer, hfeatures, hback, hahead, hgap, hrisk⟩
    refine ⟨_, hrisk, _, hrange, _, hprecision, _, hsize, _, hbuffer, _, hfeatures, _, hback, _,
      hahead, _, hgap, ?_⟩
    rw [values, ← hmodels]

theorem request_ok_iff {days : Date × Date} {o : Operation} {r : Request} :
    request days o fs = .ok r ↔ r.operation = o ∧ Given days fs r := by
  cases o <;> cases r <;>
    simp [request, Given, Request.operation, map_ok_iff, backtest_ok_iff, training_ok_iff,
      dayRange_ok_iff]

/-! ## Flags that can be read -/

/-- What a value has to be. -/
inductive Kind where
  | text
  | day
  | whole
  | real

/-- The text is a value of the kind. -/
def Kind.Holds : Kind → String → Prop
  | .text, _ => True
  | .day, raw => ∃ d, dayOfText raw = .ok d
  | .whole, raw => ∃ n, Numeral.whole 0x100000000 raw = .ok n
  | .real, raw => ∃ x, Numeral.real raw = .ok x

def rangeKinds : List (String × Kind) :=
  [("coin", .text), ("from", .day), ("to", .day)]

def backtestKinds : List (String × Kind) :=
  [("interval", .whole), ("prev", .whole), ("next", .whole), ("threshold", .real)]

def riskKinds : List (String × Kind) :=
  [("buffer-time", .real), ("price-threshold", .real), ("stop-loss", .real), ("take-profit", .real)]

def trainingKinds : List (String × Kind) :=
  [("model", .text), ("precision", .real), ("size", .whole), ("buffer", .whole),
   ("features", .whole), ("look-back", .whole), ("look-ahead", .whole), ("gap", .real)]

/-- The flags of a command, each with the kind of its values. -/
def kinds : Operation → List (String × Kind)
  | .run => rangeKinds ++ backtestKinds
  | .train => rangeKinds ++ (trainingKinds ++ riskKinds)
  | .load => rangeKinds
  | .history => rangeKinds
  | .models => []

/-- Every flag is one of the command. -/
def Allowed (o : Operation) (fs : Flags) : Prop :=
  ∀ f ∈ fs, f.1 ∈ (kinds o).map Prod.fst

theorem allowed_eq (o : Operation) : allowed o = (kinds o).map Prod.fst := by
  cases o <;> rfl

/-- The last value of each of the flags is of the kind of the flag. -/
def Legible (fs : Flags) (ks : List (String × Kind)) : Prop :=
  ∀ k ∈ ks, ∀ raw, IsLast fs k.1 raw → k.2.Holds raw

theorem legible_nil : Legible fs [] := by
  simp [Legible]

theorem legible_cons {name : String} {kind : Kind} {ks : List (String × Kind)} :
    Legible fs ((name, kind) :: ks) ↔
      (∀ raw, IsLast fs name raw → kind.Holds raw) ∧ Legible fs ks := by
  simp [Legible]

theorem legible_append {ks ks' : List (String × Kind)} :
    Legible fs (ks ++ ks') ↔ Legible fs ks ∧ Legible fs ks' := by
  simp [Legible, or_imp, forall_and]

theorem exists_isDayRange_iff (default : DayRange) :
    (∃ r, IsDayRange fs default r) ↔ Legible fs rangeKinds := by
  simp only [rangeKinds, legible_cons, legible_nil, and_true]
  constructor
  · rintro ⟨r, h⟩
    exact ⟨fun _ _ => trivial, fun _ => h.first.exists_read, fun _ => h.last.exists_read⟩
  · rintro ⟨-, hfirst, hlast⟩
    have hcoin : ∃ c, Fills fs "coin" verbatim default.coin c :=
      exists_fills default.coin fun raw _ => ⟨raw, rfl⟩
    obtain ⟨coin, hcoin⟩ := hcoin
    obtain ⟨first, hfirst⟩ := exists_fills default.first hfirst
    obtain ⟨last, hlast⟩ := exists_fills default.last hlast
    exact ⟨⟨coin, first, last⟩, hcoin, hfirst, hlast⟩

theorem exists_isBacktest_iff (default : Backtest) :
    (∃ b, IsBacktest fs default b) ↔ Legible fs (kinds .run) := by
  simp only [kinds, legible_append, ← exists_isDayRange_iff default.range, backtestKinds,
    legible_cons, legible_nil, and_true]
  constructor
  · rintro ⟨b, h⟩
    exact ⟨⟨b.range, h.range⟩, fun _ => h.interval.exists_read, fun _ => h.prev.exists_read,
      fun _ => h.next.exists_read, fun _ => h.threshold.exists_read⟩
  · rintro ⟨⟨range, hrange⟩, hinterval, hprev, hnext, hthreshold⟩
    obtain ⟨interval, hinterval⟩ := exists_fills default.interval hinterval
    obtain ⟨prev, hprev⟩ := exists_fills default.prev hprev
    obtain ⟨next, hnext⟩ := exists_fills default.next hnext
    obtain ⟨threshold, hthreshold⟩ := exists_fills default.threshold hthreshold
    exact ⟨⟨range, interval, prev, next, threshold⟩, hrange, hinterval, hprev, hnext, hthreshold⟩

theorem exists_isRiskLimits_iff (default : RiskLimits) :
    (∃ l, IsRiskLimits fs default l) ↔ Legible fs riskKinds := by
  simp only [riskKinds, legible_cons, legible_nil, and_true]
  constructor
  · rintro ⟨l, h⟩
    exact ⟨fun _ => h.bufferTime.exists_read, fun _ => h.priceThreshold.exists_read,
      fun _ => h.stopLoss.exists_read, fun _ => h.takeProfit.exists_read⟩
  · rintro ⟨htime, hprice, hloss, hprofit⟩
    obtain ⟨time, htime⟩ := exists_fills default.bufferTime htime
    obtain ⟨price, hprice⟩ := exists_fills default.priceThreshold hprice
    obtain ⟨loss, hloss⟩ := exists_fills default.stopLoss hloss
    obtain ⟨profit, hprofit⟩ := exists_fills default.takeProfit hprofit
    exact ⟨⟨time, price, loss, profit⟩, htime, hprice, hloss, hprofit⟩

theorem exists_isTraining_iff (default : Training) :
    (∃ t, IsTraining fs default t) ↔ Legible fs (kinds .train) := by
  simp only [kinds, legible_append, ← exists_isDayRange_iff default.range,
    ← exists_isRiskLimits_iff default.risk, trainingKinds, legible_cons, legible_nil, and_true]
  constructor
  · rintro ⟨t, h⟩
    exact ⟨⟨t.range, h.range⟩, ⟨fun _ _ => trivial, fun _ => h.precision.exists_read,
      fun _ => h.size.exists_read, fun _ => h.buffer.exists_read, fun _ => h.features.exists_read,
      fun _ => h.lookBack.exists_read, fun _ => h.lookAhead.exists_read,
      fun _ => h.gap.exists_read⟩, ⟨t.risk, h.risk⟩⟩
  · rintro ⟨⟨range, hrange⟩, ⟨-, hprecision, hsize, hbuffer, hfeatures, hback, hahead, hgap⟩,
      ⟨risk, hrisk⟩⟩
    obtain ⟨precision, hprecision⟩ := exists_fills default.precision hprecision
    obtain ⟨size, hsize⟩ := exists_fills default.size hsize
    obtain ⟨buffer, hbuffer⟩ := exists_fills default.buffer hbuffer
    obtain ⟨features, hfeatures⟩ := exists_fills default.features hfeatures
    obtain ⟨back, hback⟩ := exists_fills default.lookBack hback
    obtain ⟨ahead, hahead⟩ := exists_fills default.lookAhead hahead
    obtain ⟨gap, hgap⟩ := exists_fills default.gap hgap
    exact ⟨⟨range, _, precision, size, buffer, features, back, ahead, gap, risk⟩,
      hrange, rfl, hprecision, hsize, hbuffer, hfeatures, hback, hahead, hgap, hrisk⟩

theorem exists_request_iff (days : Date × Date) (o : Operation) :
    (∃ r, request days o fs = .ok r) ↔ Legible fs (kinds o) := by
  cases o with
  | run => simp [request, map_ok_iff, backtest_ok_iff, exists_isBacktest_iff]
  | train => simp [request, map_ok_iff, training_ok_iff, exists_isTraining_iff]
  | load => simp [request, map_ok_iff, dayRange_ok_iff, exists_isDayRange_iff, kinds]
  | history => simp [request, map_ok_iff, dayRange_ok_iff, exists_isDayRange_iff, kinds]
  | models => simp [request, kinds, legible_nil]

/-! ## Order of the flags -/

/-- The same flags in another order, in which those of one name keep theirs. -/
def Reordered (fs fs' : Flags) : Prop :=
  fs.Perm fs' ∧ ∀ name, (fs.filter fun f => f.1 == name) = fs'.filter fun f => f.1 == name

theorem Reordered.values_eq {fs' : Flags} (h : Reordered fs fs') : values fs = values fs' := by
  funext name
  rw [values, values, h.2 name]

theorem Reordered.mem_iff {fs' : Flags} (h : Reordered fs fs') {f : String × String} :
    f ∈ fs ↔ f ∈ fs' :=
  h.1.mem_iff

theorem request_congr {fs' : Flags} (days : Date × Date) (o : Operation)
    (h : values fs = values fs') : request days o fs = request days o fs' := by
  have hlast : last? fs = last? fs' := by
    funext name
    rw [last?, last?, h]
  have hdate : date fs = date fs' := by
    funext name default
    rw [date, date, hlast]
  have hnumber {α : Type} (read : String → Except Numeral.Fault α) :
      number read fs = number read fs' := by
    funext name default
    rw [number, number, hlast]
  cases o <;>
    simp only [request, backtest, training, riskLimits, dayRange, whole, real, h, hlast, hdate,
      hnumber]

/-! ## Command lines -/

theorem find?_endpoint_eq_some_iff {command : String} {o : Operation} :
    Operation.all.find? (fun o => o.endpoint == command) = some o ↔ command = o.endpoint := by
  constructor
  · intro h
    have hfound := List.find?_some h
    exact (eq_of_beq hfound).symm
  · rintro rfl
    cases o <;> rfl

theorem parse_cons {days : Date × Date} {command : String} {rest : List String} {r : Request} :
    parse days (command :: rest) = .ok r ↔
      ∃ o, Operation.all.find? (fun o => o.endpoint == command) = some o ∧
        ∃ fs, flags (allowed o) rest = .ok fs ∧ request days o fs = .ok r := by
  rw [parse]
  cases Operation.all.find? (fun o => o.endpoint == command) with
  | none => simp
  | some o => cases h : flags (allowed o) rest <;> simp [h]

theorem parse_cons_ok_iff {days : Date × Date} {command : String} {rest : List String}
    {r : Request} :
    parse days (command :: rest) = .ok r ↔
      command = r.operation.endpoint ∧
        ∃ fs, rest = words fs ∧ Allowed r.operation fs ∧ Given days fs r := by
  simp only [parse_cons, find?_endpoint_eq_some_iff, flags_ok_iff, allowed_eq, request_ok_iff]
  constructor
  · rintro ⟨_, rfl, fs, ⟨rfl, hallowed⟩, rfl, hgiven⟩
    exact ⟨rfl, fs, rfl, hallowed, hgiven⟩
  · rintro ⟨rfl, fs, rfl, hallowed, hgiven⟩
    exact ⟨_, rfl, fs, ⟨rfl, hallowed⟩, rfl, hgiven⟩

theorem parse_ok_iff {days : Date × Date} {args : List String} {r : Request} :
    parse days args = .ok r ↔
      ∃ fs, args = r.operation.endpoint :: words fs ∧ Allowed r.operation fs ∧
        Given days fs r := by
  cases args with
  | nil => simp [parse]
  | cons command rest => simp [parse_cons_ok_iff, and_assoc]

theorem exists_parse_ok_iff {days : Date × Date} {args : List String} :
    (∃ r, parse days args = .ok r) ↔
      ∃ o fs, args = Operation.endpoint o :: words fs ∧ Allowed o fs ∧ Legible fs (kinds o) := by
  simp only [parse_ok_iff, ← exists_request_iff days, request_ok_iff]
  constructor
  · rintro ⟨r, fs, hargs, hallowed, hgiven⟩
    exact ⟨r.operation, fs, hargs, hallowed, r, rfl, hgiven⟩
  · rintro ⟨_, fs, hargs, hallowed, r, rfl, hgiven⟩
    exact ⟨r, fs, hargs, hallowed, hgiven⟩

theorem parse_words_ok_iff {days : Date × Date} {command : String} {fs : Flags} {r : Request} :
    parse days (command :: words fs) = .ok r ↔
      command = r.operation.endpoint ∧ Allowed r.operation fs ∧
        request days r.operation fs = .ok r := by
  rw [parse_cons_ok_iff]
  constructor
  · rintro ⟨hcommand, found, hwords, hallowed, hgiven⟩
    obtain rfl := words_injective hwords
    exact ⟨hcommand, hallowed, request_ok_iff.mpr ⟨rfl, hgiven⟩⟩
  · rintro ⟨hcommand, hallowed, hrequest⟩
    exact ⟨hcommand, fs, rfl, hallowed, (request_ok_iff.mp hrequest).2⟩

theorem parse_reordered {days : Date × Date} {command : String} {fs fs' : Flags} {r : Request}
    (h : Reordered fs fs') :
    parse days (command :: words fs) = .ok r ↔ parse days (command :: words fs') = .ok r := by
  simp only [parse_words_ok_iff, Allowed, h.mem_iff, request_congr days r.operation h.values_eq]

/-- Command lines are read field by field:

* what is read is a command with flags of its own, and every field of the request holds the last
  value of its flag or the default, except that every model is kept;
* all is read whose flags are those of the command and whose last dates and numbers are such;
* the order of flags of different names does not matter. -/
theorem read_field_by_field (days : Date × Date) (args : List String) :
    (∀ r, parse days args = .ok r ↔
      ∃ fs, args = r.operation.endpoint :: words fs ∧ Allowed r.operation fs ∧ Given days fs r) ∧
    ((∃ r, parse days args = .ok r) ↔
      ∃ o fs, args = Operation.endpoint o :: words fs ∧ Allowed o fs ∧ Legible fs (kinds o)) ∧
    ∀ command fs fs', args = command :: words fs → Reordered fs fs' →
      ∀ r, parse days args = .ok r ↔ parse days (command :: words fs') = .ok r := by
  refine ⟨fun r => parse_ok_iff, exists_parse_ok_iff, ?_⟩
  rintro command fs fs' rfl h r
  exact parse_reordered h

example (days : Date × Date) :
    parse days ["load", "--coin", "--to", "--coin", "ETH"] =
      .ok (.load ⟨"ETH", days.1, days.2⟩) := rfl

end CommandLine
end BacktestDesk
