import BacktestDesk.Proofs.DocumentText
import BacktestDesk.Proofs.KeptNumber
import BacktestDesk.Proofs.RecordLayout
import BacktestDesk.Proofs.RuleOrder
import BacktestDesk.Scenario.Document

/-!
# BacktestDesk.Proofs.RequestRoundTrip

A request is read back from the document that it is written as, and from the text of this document.
The numbers of a request have to be finite, or to have 32 bits; those of a request that keeps its
rules are.

* `Codec.day`: dates of all years as text.
* `Request.read_told`: the tag is found beside the fields of the configuration, which are read
  without it.
* `Request.kept_rules`: with its numbers read again a request keeps its rules.
* `Request.built_read_back`: a request that is built is read back and built again. As text it comes
  back with its numbers as they are read, which need not be those that were written
  (`Request.threshold_read_back_otherwise`).
-/

namespace BacktestDesk

open Json Calendar

/-! ## Numbers of a request -/

namespace RiskLimits

def numbers (r : RiskLimits) : List Double :=
  [r.bufferTime, r.priceThreshold, r.stopLoss, r.takeProfit]

def mapNumbers (f : Double → Double) (r : RiskLimits) : RiskLimits where
  bufferTime := f r.bufferTime
  priceThreshold := f r.priceThreshold
  stopLoss := f r.stopLoss
  takeProfit := f r.takeProfit

end RiskLimits

namespace Request

/-- The real numbers of a request. -/
def numbers : Request → List Double
  | run b => [b.threshold]
  | train t => [t.precision, t.gap] ++ t.risk.numbers
  | _ => []

/-- A request with other real numbers; its texts, days and whole numbers stay. -/
def mapNumbers (f : Double → Double) : Request → Request
  | run b => run { b with threshold := f b.threshold }
  | train t =>
    train { t with precision := f t.precision, gap := f t.gap, risk := t.risk.mapNumbers f }
  | r => r

theorem mapNumbers_of_fixed {f : Double → Double} {r : Request} (h : ∀ x ∈ r.numbers, f x = x) :
    r.mapNumbers f = r := by
  cases r with
  | run b =>
    simp [numbers, mapNumbers] at h ⊢
    rw [h]
  | train t =>
    simp [numbers, mapNumbers, RiskLimits.numbers, RiskLimits.mapNumbers] at h ⊢
    simp [h]
  | _ => rfl

end Request

/-! ## Configurations -/

namespace Json.Codec

theorem read_ofDay (d : Date) : readDay (ofDay d) = .ok d := by
  have hday : looseDayOfText d.text = .ok d := by
    rw [looseDayOfText, Date.text, String.toList_ofList]
    exact dayOfChars_chars (by decide) (by decide) true d
  simp only [readDay, ofDay, readMoment, hday]

def day : Codec Date :=
  plain readDay ofDay 0 (fun t d => by rw [ofDay, t.str]; exact read_ofDay d)
    (fun _ h => by cases h) (fun _ => .str _) fun _ => trivial

end Json.Codec

namespace DayRange

def layout : Layout DayRange DayRange :=
  (Layout.none mk).and (.required "coin" .text) coin
    |>.and (.required "from" .day) first
    |>.and (.required "to" .day) last

theorem describes : layout.Describes where
  names := by decide
  build_parts _ := rfl
  parts_build _ := rfl

def codec : Codec DayRange :=
  layout.codec describes .tagged "RangeConfig" toJson fun _ => rfl

end DayRange

namespace Backtest

def layout : Layout Backtest Backtest :=
  (Layout.none mk).and (.required "range" DayRange.codec) range
    |>.and (.required "interval" .unsigned32) interval
    |>.and (.required "prev" .unsigned32) prev
    |>.and (.required "next" .unsigned32) next
    |>.and (.required "threshold" .real) threshold

theorem describes : layout.Describes where
  names := by decide
  build_parts _ := rfl
  parts_build _ := rfl

end Backtest

namespace RiskLimits

def layout : Layout RiskLimits RiskLimits :=
  (Layout.none mk).and (.required "buffer_time" .real) bufferTime
    |>.and (.required "price_threshold" .real) priceThreshold
    |>.and (.required "stop_loss" .real) stopLoss
    |>.and (.required "take_profit" .real) takeProfit

theorem describes : layout.Describes where
  names := by decide
  build_parts _ := rfl
  parts_build _ := rfl

def codec : Codec RiskLimits :=
  layout.codec describes .tagged "RiskConfig" toJson fun _ => rfl

end RiskLimits

namespace Training

def layout : Layout Training Training :=
  (Layout.none mk).and (.required "range" DayRange.codec) range
    |>.and (.required "models" Codec.text.list) models
    |>.and (.required "precision" .real) precision
    |>.and (.required "size" .unsigned32) size
    |>.and (.required "buffer" .unsigned32) buffer
    |>.and (.required "features" .unsigned32) features
    |>.and (.required "look_back" .unsigned32) lookBack
    |>.and (.required "look_ahead" .unsigned32) lookAhead
    |>.and (.required "gap" .real) gap
    |>.and (.required "risk" RiskLimits.codec) risk

theorem describes : layout.Describes where
  names := by decide
  build_parts _ := rfl
  parts_build _ := rfl

theorem again_layout (f : Double → Double) (t : Training) :
    layout.build (layout.again f (layout.parts t)) =
      { t with precision := f t.precision, gap := f t.gap, risk := t.risk.mapNumbers f } := by
  have hagain : layout.build (layout.again f (layout.parts t)) =
      { t with
        models := t.models.map id
        precision := f t.precision
        gap := f t.gap
        risk := t.risk.mapNumbers f } := rfl
  rw [hagain, List.map_id]

end Training

/-! ## Requests -/

namespace Request

/-- Every part of the configuration keeps to what its field asks for. -/
def Fits : Request → Prop
  | run b => Backtest.layout.Fits (Backtest.layout.parts b)
  | train t => Training.layout.Fits (Training.layout.parts t)
  | load r => DayRange.layout.Fits (DayRange.layout.parts r)
  | history r => DayRange.layout.Fits (DayRange.layout.parts r)
  | models => True

theorem readTag_toJson (o : Operation) : readTag o.toJson = .ok o := by
  cases o <;> rfl

theorem tag_notMem_fields (r : Request) : tag ∉ r.fields.map Prod.fst := by
  cases r <;> simp [fields, Backtest.fields, Training.fields, DayRange.fields, tag]

theorem nodup_keys_fields (r : Request) : (r.fields.map Prod.fst).Nodup := by
  cases r with
  | run b => exact Layout.nodup_keys_entries Backtest.describes.names (Backtest.layout.parts b)
  | train t => exact Layout.nodup_keys_entries Training.describes.names (Training.layout.parts t)
  | load range =>
    exact Layout.nodup_keys_entries DayRange.describes.names (DayRange.layout.parts range)
  | history range =>
    exact Layout.nodup_keys_entries DayRange.describes.names (DayRange.layout.parts range)
  | models => exact List.nodup_nil

/-- No field of a configuration is called like the tag, so it may stand beside them. -/
theorem back_beside_tag {σ : Type} {l : Layout σ σ} (hl : l.Describes) (htag : tag ∉ l.names)
    {t : Retelling} {s : σ} (hfits : l.Fits (l.parts s)) {fields : List (String × Json)}
    (h : ∀ name, name ≠ tag →
      field? name (.obj fields) = (field? name (.obj (l.entries (l.parts s)))).map t.tell)
    (name : String) :
    readRecord .tagged name l.fields (.obj fields) =
      .ok (l.build (l.again t.number (l.parts s))) :=
  l.back hl hfits (fun key hkey => h key fun heq => htag (heq ▸ hkey)) .tagged name

/-- The configuration is read of any object that has its fields under their names. -/
theorem readContent_told {t : Retelling} {r : Request} (h : r.Fits)
    {fields : List (String × Json)}
    (hfields : ∀ name, name ≠ tag →
      field? name (.obj fields) = (field? name (.obj r.fields)).map t.tell) :
    readContent r.operation (.obj fields) = .ok (r.mapNumbers t.number) := by
  cases r with
  | run b =>
    have hread : Backtest.read .tagged (.obj fields) = _ :=
      back_beside_tag Backtest.describes (by decide) h hfields "RunConfig"
    simp only [operation, readContent, hread]
    rfl
  | train c =>
    have hread : Training.read .tagged (.obj fields) = _ :=
      back_beside_tag Training.describes (by decide) h hfields "TrainConfig"
    simp only [operation, readContent, hread, mapNumbers, ← Training.again_layout]
  | load range =>
    have hread : DayRange.read .tagged (.obj fields) = _ :=
      back_beside_tag DayRange.describes (by decide) h hfields "RangeConfig"
    simp only [operation, readContent, hread]
    rfl
  | history range =>
    have hread : DayRange.read .tagged (.obj fields) = _ :=
      back_beside_tag DayRange.describes (by decide) h hfields "RangeConfig"
    simp only [operation, readContent, hread]
    rfl
  | models => rfl

/-! ### The tag -/

theorem field?_filter {name key : String} (h : name ≠ key) (fields : List (String × Json)) :
    field? name (.obj (fields.filter fun e => e.1 != key)) = field? name (.obj fields) := by
  have hkept : (fun e : String × Json => decide ((e.1 != key) = true ∧ (e.1 == name) = true)) =
      fun e => e.1 == name := by
    funext e
    rw [Bool.eq_iff_iff, decide_eq_true_eq, bne_iff_ne, beq_iff_eq]
    exact and_iff_right_of_imp fun he => he ▸ h
  simp only [field?, List.find?_filter, hkept]

/-- A request is read back however its document comes back. -/
theorem read_told (t : Retelling) {r : Request} (h : r.Fits) :
    read (t.tell r.toJson) = .ok (r.mapNumbers t.number) := by
  have hkeys : (((tag, r.operation.toJson) :: r.fields).map Prod.fst).Nodup :=
    List.nodup_cons.mpr ⟨r.tag_notMem_fields, r.nodup_keys_fields⟩
  obtain ⟨fields, htell, hperm⟩ := t.obj _ hkeys
  have hfield := t.field?_tell hkeys hperm
  have htag : field? tag (.obj fields) = some (t.tell r.operation.toJson) := by
    have hfirst : field? tag (.obj ((tag, r.operation.toJson) :: r.fields)) =
        some r.operation.toJson := by simp [field?]
    rw [hfield tag, hfirst, Option.map_some]
  obtain ⟨e, he, hvalue⟩ := Option.map_eq_some_iff.mp htag
  have hoperation : readTag e.2 = .ok r.operation := by
    rw [hvalue, Operation.toJson, t.str]
    exact readTag_toJson r.operation
  have hcontent : readContent r.operation (.obj (fields.filter fun e => e.1 != tag)) =
      .ok (r.mapNumbers t.number) := by
    refine readContent_told h fun name hname => ?_
    have hother : field? name (.obj ((tag, r.operation.toJson) :: r.fields)) =
        field? name (.obj r.fields) := by
      simp [field?, beq_eq_false_iff_ne.mpr hname.symm]
    rw [field?_filter hname, hfield name, hother]
  rw [toJson, htell]
  simp only [read, he, readTagged, hoperation, hcontent]

/-! ### Proper documents -/

theorem proper_fields {r : Request} (h : r.Fits) :
    ∀ e ∈ r.fields, e.2.Proper ∧ e.2.Within 1 := by
  cases r with
  | run b => exact Layout.proper_entries h
  | train t => exact Layout.proper_entries h
  | load range => exact fun e he => (Layout.proper_entries h e he).imp id (.mono · (by decide))
  | history range => exact fun e he => (Layout.proper_entries h e he).imp id (.mono · (by decide))
  | models => exact List.forall_mem_nil _

theorem proper_toJson {r : Request} (h : r.Fits) : r.toJson.Proper := by
  refine .obj (List.nodup_cons.mpr ⟨r.tag_notMem_fields, r.nodup_keys_fields⟩) ?_
  exact List.forall_mem_cons.mpr ⟨.str _, fun e he => (proper_fields h e he).1⟩

theorem within_toJson {r : Request} (h : r.Fits) : r.toJson.Within 2 :=
  List.forall_mem_cons.mpr ⟨trivial, fun e he => (proper_fields h e he).2⟩

/-- The text of a request, on many lines or on one, is read as the request with its numbers read
again. -/
theorem read_text {r : Request} (h : r.Fits) :
    ∀ text ∈ [r.toJson.pretty, r.toJson.compact], ∃ w, ofText? text = some w ∧
      read w = .ok (r.mapNumbers Double.reread) := by
  have hwithin : r.toJson.Within Reader.maxDepth := (within_toJson h).mono (by decide)
  exact (proper_toJson h).read_texts hwithin (read_told .text h)

end Request

/-! ## Requests that keep their rules -/

namespace Rule

variable {name least greatest : String} {x : Double} {a b : ℚ}

theorem isFinite_of_real (h : (real name x least greatest a b).holds) : x.isFinite := by
  obtain ⟨q, hq, -, -⟩ := h
  exact Double.isFinite_of_value? hq

theorem isFinite_of_nonNegative (h : (nonNegative name x).holds) : x.isFinite := by
  obtain ⟨q, hq, -⟩ := h
  exact Double.isFinite_of_value? hq

theorem unsigned32_of_whole {n lo hi : Nat} (h : (whole name n lo hi).holds)
    (hgreatest : hi < 0x100000000) : n < 0x100000000 :=
  Nat.lt_of_le_of_lt h.2 hgreatest

/-- A number between zero and one stays there, and so does one between a half and one. -/
theorem real_reread (ha : a = 0 ∨ a = 1 / 2) (h : (real name x least greatest a 1).holds) :
    (real name x.reread least greatest a 1).holds := by
  obtain ⟨q, hq, hleast, hgreatest⟩ := h
  have hzero : 0 ≤ a := by rcases ha with rfl | rfl <;> norm_num
  obtain ⟨q', hq', hnonneg, hbounds⟩ := Double.exists_value?_reread hq (hzero.trans hleast)
  obtain ⟨hone, hhalf⟩ := hbounds hgreatest
  refine ⟨q', hq', ?_, hone⟩
  rcases ha with rfl | rfl
  · exact hnonneg
  · exact hhalf hleast

theorem nonNegative_reread (h : (nonNegative name x).holds) :
    (nonNegative name x.reread).holds := by
  obtain ⟨q, hq, hzero⟩ := h
  obtain ⟨q', hq', hnonneg, -⟩ := Double.exists_value?_reread hq hzero
  exact ⟨q', hq', hnonneg⟩

end Rule

theorem DayRange.fits (r : DayRange) : DayRange.layout.Fits (DayRange.layout.parts r) :=
  ⟨trivial, trivial, trivial, trivial⟩

theorem Backtest.fits_of_rules {b : Backtest} (h : ∀ rule ∈ b.rules, rule.holds) :
    layout.Fits (layout.parts b) := by
  simp only [rules, List.forall_mem_append, List.forall_mem_cons] at h
  obtain ⟨-, hinterval, hprev, hnext, hthreshold, -⟩ := h
  have hall : ∀ n ∈ [1, 2, 3, 5, 10, 15, 20, 25, 30], n < 0x100000000 := by decide
  exact ⟨b.range.fits, hall b.interval hinterval, Rule.unsigned32_of_whole hprev (by decide),
    Rule.unsigned32_of_whole hnext (by decide), Rule.isFinite_of_real hthreshold, trivial⟩

theorem RiskLimits.fits_of_rules {r : RiskLimits} (h : ∀ rule ∈ r.rules, rule.holds) :
    codec.Fits r := by
  simp only [rules, List.forall_mem_cons] at h
  obtain ⟨hbufferTime, hpriceThreshold, hstopLoss, htakeProfit, -⟩ := h
  exact ⟨Rule.isFinite_of_nonNegative hbufferTime, Rule.isFinite_of_nonNegative hpriceThreshold,
    Rule.isFinite_of_nonNegative hstopLoss, Rule.isFinite_of_nonNegative htakeProfit, trivial⟩

theorem Training.fits_of_rules {t : Training} (h : ∀ rule ∈ t.rules, rule.holds) :
    layout.Fits (layout.parts t) := by
  simp only [rules, List.forall_mem_append, List.forall_mem_cons] at h
  obtain ⟨⟨-, -, hprecision, hsize, hbuffer, hfeatures, hlookBack, hlookAhead, hgap, -⟩, hrisk⟩ := h
  exact ⟨t.range.fits, fun _ _ => trivial, Rule.isFinite_of_real hprecision,
    Rule.unsigned32_of_whole hsize (by decide), Rule.unsigned32_of_whole hbuffer (by decide),
    Rule.unsigned32_of_whole hfeatures (by decide), Rule.unsigned32_of_whole hlookBack (by decide),
    Rule.unsigned32_of_whole hlookAhead (by decide), Rule.isFinite_of_real hgap,
    RiskLimits.fits_of_rules hrisk, trivial⟩

namespace Request

theorem build_iff_rules {r : Request} {ps : Parameters} :
    r.build = .ok ps ↔ (∀ rule ∈ r.rules, rule.holds) ∧ ps = r.parameters := by
  rw [← r.firstBroken_violation?.eq_none_iff, build]
  cases r.violation? <;> simp [eq_comm]

theorem fits_of_rules {r : Request} (h : ∀ rule ∈ r.rules, rule.holds) : r.Fits := by
  cases r with
  | run b => exact Backtest.fits_of_rules h
  | train t => exact Training.fits_of_rules h
  | load range => exact range.fits
  | history range => exact range.fits
  | models => trivial

/-- With its numbers read again a request keeps its rules. -/
theorem kept_rules {r : Request} (h : ∀ rule ∈ r.rules, rule.holds) :
    ∀ rule ∈ (r.mapNumbers Double.reread).rules, rule.holds := by
  cases r with
  | run b =>
    simp only [mapNumbers, rules, Backtest.rules, List.forall_mem_append, List.forall_mem_cons]
      at h ⊢
    obtain ⟨hrange, hinterval, hprev, hnext, hthreshold, hnil⟩ := h
    exact ⟨hrange, hinterval, hprev, hnext, Rule.real_reread (.inl rfl) hthreshold, hnil⟩
  | train t =>
    simp only [mapNumbers, rules, Training.rules, RiskLimits.rules, RiskLimits.mapNumbers,
      List.forall_mem_append, List.forall_mem_cons] at h ⊢
    obtain ⟨⟨hrange, hmodels, hprecision, hsize, hbuffer, hfeatures, hlookBack, hlookAhead, hgap,
      hnil⟩, hbufferTime, hpriceThreshold, hstopLoss, htakeProfit, hnil'⟩ := h
    exact ⟨⟨hrange, hmodels, Rule.real_reread (.inl rfl) hprecision, hsize, hbuffer, hfeatures,
      hlookBack, hlookAhead, Rule.real_reread (.inr rfl) hgap, hnil⟩,
      Rule.nonNegative_reread hbufferTime, Rule.nonNegative_reread hpriceThreshold,
      Rule.nonNegative_reread hstopLoss, Rule.nonNegative_reread htakeProfit, hnil'⟩
  | _ => exact h

/-! ## Pairs -/

/-- A pair that goes out again: its key, with the same text or, for a real number, with that of the
number that came back. -/
def GoesOutAgain (r : Request) (p q : String × String) : Prop :=
  q.1 = p.1 ∧ (q.2 = p.2 ∨ ∃ x ∈ r.numbers, p.2 = x.plain ∧ q.2 = x.reread.plain)

theorem GoesOutAgain.same (r : Request) (p : String × String) : r.GoesOutAgain p p :=
  ⟨rfl, .inl rfl⟩

theorem GoesOutAgain.real {r : Request} {x : Double} (h : x ∈ r.numbers) (key : String) :
    r.GoesOutAgain (key, x.plain) (key, x.reread.plain) :=
  ⟨rfl, .inr ⟨x, h, rfl, rfl⟩⟩

theorem forall₂_same (r : Request) (ps : List (String × String)) :
    List.Forall₂ r.GoesOutAgain ps ps :=
  List.forall₂_same.mpr fun p _ => .same r p

theorem forall₂_figures (r : Request) :
    List.Forall₂ r.GoesOutAgain r.figures (r.mapNumbers Double.reread).figures := by
  cases r with
  | run b =>
    have hthreshold : b.threshold ∈ (run b).numbers := List.mem_singleton_self _
    simp only [figures, mapNumbers, Backtest.figures, List.forall₂_cons]
    exact ⟨.same _ _, .same _ _, .same _ _, .real hthreshold _, .nil⟩
  | train t =>
    have hnumbers : ∀ x ∈ [t.precision, t.gap, t.risk.bufferTime, t.risk.priceThreshold,
        t.risk.stopLoss, t.risk.takeProfit], x ∈ (train t).numbers := fun _ hx => hx
    simp only [List.forall_mem_cons] at hnumbers
    obtain ⟨hprecision, hgap, hbufferTime, hpriceThreshold, hstopLoss, htakeProfit, -⟩ := hnumbers
    simp only [figures, mapNumbers, RiskLimits.mapNumbers, Training.figures, List.forall₂_cons]
    exact ⟨.real hprecision _, .same _ _, .same _ _, .same _ _, .same _ _, .same _ _,
      .real hgap _, .real hbufferTime _, .real hpriceThreshold _, .real hstopLoss _,
      .real htakeProfit _, .nil⟩
  | _ => exact .nil

theorem forall₂_pairs (r : Request) :
    List.Forall₂ r.GoesOutAgain r.parameters.pairs
      (r.mapNumbers Double.reread).parameters.pairs := by
  have hrange : (r.mapNumbers Double.reread).rangePairs = r.rangePairs := by cases r <;> rfl
  have hnamed : (r.mapNumbers Double.reread).named = r.named := by cases r <;> rfl
  rw [pairs_parameters, pairs_parameters, wirePairs, wirePairs, hrange, hnamed]
  exact List.rel_append (forall₂_same r _) r.forall₂_figures

/-! ## The round trip -/

/-- A request that is built survives being written as a document that names its operation. The
document itself is read as the request. Its text, on many lines or on one, is read as the request
with each real number as the text of this number is read; this request is built again for the same
operation, with the same pairs but for the texts of these numbers. It is the request itself, with
the same pairs, if these numbers stay the same, as those do that have up to fifteen digits and no
exponent. -/
theorem built_read_back {r : Request} {ps : Parameters} (h : r.build = .ok ps) :
    field? tag r.toJson = some (.str r.operation.endpoint) ∧ read r.toJson = .ok r ∧
    ∀ text ∈ [r.toJson.pretty, r.toJson.compact], ∃ w r' qs, ofText? text = some w ∧
      read w = .ok r' ∧ r' = r.mapNumbers Double.reread ∧ r'.operation = r.operation ∧
      r'.build = .ok qs ∧ List.Forall₂ r.GoesOutAgain ps.pairs qs.pairs ∧
      ((∀ x ∈ r.numbers, x.IsShort ∨ x.reread = x) → r' = r ∧ qs.pairs = ps.pairs) := by
  obtain ⟨hrules, rfl⟩ := build_iff_rules.mp h
  have hfits := fits_of_rules hrules
  have hid : r.mapNumbers id = r := mapNumbers_of_fixed fun _ _ => rfl
  have hsame : read r.toJson = .ok (r.mapNumbers id) := read_told .same hfits
  rw [hid] at hsame
  refine ⟨by simp [toJson, Operation.toJson, field?], hsame, fun text htext => ?_⟩
  obtain ⟨w, hw, hread⟩ := read_text hfits text htext
  refine ⟨w, _, _, hw, hread, rfl, by cases r <;> rfl, build_iff_rules.mpr ⟨kept_rules hrules, rfl⟩,
    r.forall₂_pairs, fun hnumbers => ?_⟩
  have hfixed : r.mapNumbers Double.reread = r := mapNumbers_of_fixed fun x hx =>
    (hnumbers x hx).elim Double.reread_of_isShort id
  rw [hfixed]
  exact ⟨rfl, rfl⟩

/-- A training from the first day of the calendar to a year with five digits, with negative zeros, a
number below the normal range and a quote for a model. -/
def longTraining : Training :=
  { Training.default ⟨" ETH\n", ⟨-262143, 1, 1, by decide⟩, ⟨12024, 2, 29, by decide⟩⟩ with
    models := ["\"", "a,b"], precision := .ofCode true 0,
    risk := ⟨.ofCode true 0, .ofDecimal false 1 300, .ofDecimal false 1 (-320), .zero⟩ }

theorem built_read_back_longTraining :
    (train longTraining).build = .ok (train longTraining).parameters ∧
    ∃ w, ofText? (train longTraining).toJson.compact = some w ∧
      read w = .ok (train longTraining) := by
  have h : (train longTraining).build = .ok (train longTraining).parameters := by decide +kernel
  obtain ⟨-, -, htext⟩ := built_read_back h
  obtain ⟨w, r', qs, hw, hread, -, -, -, -, hfixed⟩ :=
    htext _ (List.mem_cons_of_mem _ (List.mem_singleton_self _))
  obtain ⟨rfl, -⟩ := hfixed (by decide +kernel)
  exact ⟨h, w, hw, hread⟩

/-- A backtest with a threshold of sixteen digits, the last of which is lost when it is read. -/
def closeBacktest : Backtest where
  range := ⟨"BTC", ⟨2024, 5, 6, by decide⟩, ⟨2024, 5, 7, by decide⟩⟩
  interval := 5
  prev := 3
  next := 3
  threshold := .ofDecimal false 9452706955539223 (-16)

/-- Not every request that is built is read back from its text as it was. -/
theorem threshold_read_back_otherwise :
    ∃ ps w r qs, (run closeBacktest).build = .ok ps ∧
      ofText? (run closeBacktest).toJson.compact = some w ∧ read w = .ok r ∧
      r ≠ run closeBacktest ∧ r.build = .ok qs ∧
      ("threshold", "0.9452706955539223") ∈ ps.pairs ∧
      ("threshold", "0.9452706955539224") ∈ qs.pairs ∧ qs.pairs ≠ ps.pairs := by
  have h : (run closeBacktest).build = .ok (run closeBacktest).parameters := by decide +kernel
  obtain ⟨hrules, -⟩ := build_iff_rules.mp h
  obtain ⟨w, hw, hread⟩ := read_text (fits_of_rules hrules) (run closeBacktest).toJson.compact
    (List.mem_cons_of_mem _ (List.mem_singleton_self _))
  refine ⟨_, w, _, _, h, hw, hread, ?_, build_iff_rules.mpr ⟨kept_rules hrules, rfl⟩, ?_, ?_, ?_⟩
  all_goals decide +kernel

end Request
end BacktestDesk
