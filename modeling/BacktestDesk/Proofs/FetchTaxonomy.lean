import BacktestDesk.Fetch
import BacktestDesk.Proofs.ChartFidelity
import BacktestDesk.Proofs.PlainAddress

/-!
# BacktestDesk.Proofs.FetchTaxonomy

How a request ends, told from its configuration and the reply: the kind of a failure names its
cause. `Operation.Answers` says which bodies answer an operation, and `Reply.Classifies` which
results a reply leads to.

* `Client.fetch_eq`: all operations check, send and read in this order.
* `Client.readBody_reads`: reading succeeds on the bodies that answer the operation.
* `Client.classifies_settle`: settling a reply and reading its body tells the cause of a failure.
* `Client.fetch_of_short`, `Client.fetch_of_long`: a request to a plain base, by the length of its
  address.
-/

namespace BacktestDesk

/-! ## Requests -/

/-- What a request brings. -/
inductive Fetched where
  | chart (snapshot : Snapshot)
  | history (availability : Availability)
  | models (catalogue : Catalogue)
  | load (text : String)
  deriving DecidableEq

/-- The form of the body that an operation asks for. -/
def Operation.accept : Operation → String
  | .load => "text/plain"
  | _ => "application/json"

/-- A request through the pipeline of its operation. -/
def Client.fetch (c : Client) (r : Request) (reply : Reply) : Exchange Fetched :=
  match r with
  | .run _ => (c.fetchChart r reply).map fun s => .ok (.chart s)
  | .train _ => (c.fetchChart r reply).map fun s => .ok (.chart s)
  | .history range => (c.fetchHistory range reply).map fun a => .ok (.history a)
  | .models => (c.fetchModels reply).map fun m => .ok (.models m)
  | .load range => (c.fetchLoad range reply).map fun t => .ok (.load t)

/-- The catalogue in a document. -/
def Catalogue.ofJson (v : Json) : Except Failure Catalogue :=
  match Json.readOption (Json.readList Json.readText) v with
  | .ok ids => .ok (.ofIdentifiers (ids.getD []))
  | .error e =>
    .error (.malformed
      ("unexpected " ++ Operation.models.endpoint ++ " response shape: " ++ e.message))

/-- What a request brings of a successful response. -/
def Client.readBody (c : Client) (r : Request) (x : Response) : Except Failure Fetched :=
  let document := c.document r.operation.endpoint x.body
  match r with
  | .run _ => (document.bind Snapshot.ofJson).map .chart
  | .train _ => (document.bind Snapshot.ofJson).map .chart
  | .history range => (document.bind (Availability.ofJson (Text.trim range.coin))).map .history
  | .models => (document.bind Catalogue.ofJson).map .models
  | .load _ => .ok (.load (c.textOf x))

theorem Exchange.map_mk {α β : Type} (result : Except Failure α) (sent : List Sent)
    (f : α → Except Failure β) : (⟨result, sent⟩ : Exchange α).map f = ⟨result.bind f, sent⟩ := by
  cases result <;> rfl

theorem Exchange.map_map {α β γ : Type} (x : Exchange α) (f : α → Except Failure β)
    (g : β → Except Failure γ) : (x.map f).map g = x.map fun a => (f a).bind g := by
  cases x with
  | mk result sent =>
    cases result with
    | error e => rfl
    | ok a => cases h : f a <;> simp only [Exchange.map, h] <;> rfl

theorem Client.call_map {α β : Type} (c : Client) (op : Operation) (ps : Parameters) (reply : Reply)
    (f : Json → Except Failure α) (g : α → β) :
    ((c.call op.endpoint ps reply).map f).map (fun x => .ok (g x)) =
      (c.send "application/json" op.endpoint ps reply).map fun x =>
        ((c.document op.endpoint x.body).bind f).map g := by
  rw [call, Exchange.map_map, Exchange.map_map]
  congr
  funext x
  cases c.document op.endpoint x.body with
  | error e => rfl
  | ok v => cases h : f v <;> simp [Except.bind, Except.map, h]

theorem Client.fetchModels_eq (c : Client) (reply : Reply) :
    c.fetchModels reply =
      (c.call Operation.models.endpoint .empty reply).map Catalogue.ofJson := by
  rw [fetchModels, callAs, Exchange.map_map]
  congr
  funext v
  simp only [Catalogue.ofJson]
  cases Json.readOption (Json.readList Json.readText) v <;> rfl

/-- A request is built, sent, and its answer read. -/
theorem Client.fetch_eq (c : Client) (r : Request) (reply : Reply) :
    c.fetch r reply =
      match r.build with
      | .error e => .failed e
      | .ok ps =>
        (c.send r.operation.accept r.operation.endpoint ps reply).map (c.readBody r) := by
  cases r with
  | run config =>
    simp only [fetch, fetchChart]
    cases hb : (Request.run config).build with
    | error e => rfl
    | ok ps => exact c.call_map _ ps reply _ _
  | train config =>
    simp only [fetch, fetchChart]
    cases hb : (Request.train config).build with
    | error e => rfl
    | ok ps => exact c.call_map _ ps reply _ _
  | history range =>
    simp only [fetch, fetchHistory]
    cases hb : (Request.history range).build with
    | error e => rfl
    | ok ps => exact c.call_map _ ps reply _ _
  | models =>
    rw [fetch, fetchModels_eq]
    exact c.call_map _ .empty reply _ _
  | load range =>
    simp only [fetch, fetchLoad]
    cases hb : (Request.load range).build with
    | error e => rfl
    | ok ps =>
      simp only [callText, Exchange.map_map]
      rfl

/-! ## Answers -/

/-- Whether a report has a figure. -/
def CoinReport.has (r : CoinReport) : Figure → Bool
  | .buy => r.buy.isSome
  | .sell => r.sell.isSome
  | .buyAvg => r.buyAvg.isSome
  | .sellAvg => r.sellAvg.isSome
  | .buyVol => r.buyVol.isSome
  | .sellVol => r.sellVol.isSome
  | .fees => r.fees.isSome
  | .wallet => r.wallet.isSome
  | .profit => r.profit.isSome

/-- What an answer needs to be shown as a chart with its metrics. -/
structure RunAnswer.IsComplete (p : RunAnswer) : Prop where
  stamps : ∀ raw ∈ p.stamps, Resolves raw
  details : ∀ e ∈ p.details, e.result.isSome
  reports : ∀ e ∈ (p.report.getD .empty).entries, ∀ f, e.2.has f

/-- Which documents answer an operation; a load is answered by any text. -/
def Operation.AnsweredBy : Operation → Json → Prop
  | .run, v => ∃ p, RunAnswer.read v = .ok p ∧ p.IsComplete
  | .train, v => ∃ p, RunAnswer.read v = .ok p ∧ p.IsComplete
  | .history, v => ∃ rs, Json.readList StoredRange.read v = .ok rs ∧ ∀ r ∈ rs, Resolves r.start
  | .models, v => ∃ ids, Json.readOption (Json.readList Json.readText) v = .ok ids
  | .load, _ => True

/-- Which bodies answer an operation. -/
def Operation.Answers (op : Operation) (body : List UInt8) : Prop :=
  op = .load ∨ ∃ v, Json.ofBytes? body = some v ∧ op.AnsweredBy v

/-- The result of a reading that succeeds under a condition, and is malformed without it. -/
inductive Reads {α : Type} (condition : Prop) : Except Failure α → Prop where
  | ok (x : α) (h : condition) : Reads condition (.ok x)
  | malformed (text : String) (h : ¬ condition) : Reads condition (.error (.malformed text))

theorem Reads.map {α β : Type} {condition : Prop} {x : Except Failure α} (h : Reads condition x)
    (f : α → β) : Reads condition (x.map f) := by
  cases h with
  | ok a h => exact .ok (f a) h
  | malformed text h => exact .malformed text h

theorem Reads.congr {α : Type} {p q : Prop} {x : Except Failure α} (h : Reads p x) (hpq : p ↔ q) :
    Reads q x := by
  cases h with
  | ok a h => exact .ok a (hpq.mp h)
  | malformed text h => exact .malformed text (mt hpq.mpr h)

/-- Which of the two a reading is tells whether the condition holds. -/
theorem Reads.outcome {α : Type} {condition : Prop} {x : Except Failure α}
    (h : Reads condition x) :
    ((∃ reason, x = .error (.malformed reason)) ↔ ¬ condition) ∧
      ((∃ a, x = .ok a) ↔ condition) := by
  cases h with
  | ok a h => simp [h]
  | malformed reason h => simp [h]

theorem Metrics.ofReport_isOk_iff {coin : String} {r : CoinReport} :
    (∃ m, ofReport coin r = .ok m) ↔ ∀ f, r.has f := by
  constructor
  · rintro ⟨m, h⟩ f
    simp only [ofReport] at h
    repeat
      split at h
      · cases h
    cases f <;> simp only [CoinReport.has, Option.isSome_some, *]
  · intro h
    obtain ⟨buy, hbuy⟩ := Option.isSome_iff_exists.mp (h .buy)
    obtain ⟨sell, hsell⟩ := Option.isSome_iff_exists.mp (h .sell)
    obtain ⟨buyAvg, hbuyAvg⟩ := Option.isSome_iff_exists.mp (h .buyAvg)
    obtain ⟨sellAvg, hsellAvg⟩ := Option.isSome_iff_exists.mp (h .sellAvg)
    obtain ⟨buyVol, hbuyVol⟩ := Option.isSome_iff_exists.mp (h .buyVol)
    obtain ⟨sellVol, hsellVol⟩ := Option.isSome_iff_exists.mp (h .sellVol)
    obtain ⟨fees, hfees⟩ := Option.isSome_iff_exists.mp (h .fees)
    obtain ⟨wallet, hwallet⟩ := Option.isSome_iff_exists.mp (h .wallet)
    obtain ⟨profit, hprofit⟩ := Option.isSome_iff_exists.mp (h .profit)
    simp only [ofReport, hbuy, hsell, hbuyAvg, hsellAvg, hbuyVol, hsellVol, hfees, hwallet, hprofit]
    exact ⟨_, rfl⟩

theorem Metrics.aggregate_reads (reports : TextMap CoinReport) :
    Reads (∀ e ∈ reports.entries, ∀ f, e.2.has f) (aggregate reports) := by
  have hiff : (∀ e ∈ reports.entries, ∀ f, e.2.has f) ↔ ∃ m, ofReports reports = .ok m := by
    simp only [ofReports, TextMap.mapM_isOk_iff, ofReport_isOk_iff]
  refine Reads.congr ?_ hiff.symm
  rw [aggregate]
  cases ofReports reports with
  | error e => exact .malformed _ (by simp)
  | ok m => exact .ok m ⟨m, rfl⟩

/-- A condition on the value of a reading that succeeded. -/
theorem exists_ok_and_iff {ε α : Type} {x : α} {p : α → Prop} :
    (∃ y, (Except.ok x : Except ε α) = .ok y ∧ p y) ↔ p x :=
  ⟨fun ⟨_, hy, h⟩ => by cases hy; exact h, fun h => ⟨x, rfl, h⟩⟩

theorem Snapshot.ofJson_reads (v : Json) :
    Reads (∃ p, RunAnswer.read v = .ok p ∧ p.IsComplete) (ofJson v) := by
  rw [ofJson, Chart.ofJson]
  cases RunAnswer.read v with
  | error e => exact .malformed _ (by simp)
  | ok p =>
    refine Reads.congr ?_ exists_ok_and_iff.symm
    cases hc : Chart.ofAnswer p with
    | error e =>
      simp only [hc]
      refine .malformed _ fun h => ?_
      obtain ⟨c, hshown⟩ := Chart.ofAnswer_isOk_iff.mpr ⟨h.stamps, h.details⟩
      rw [hc] at hshown
      cases hshown
    | ok chart =>
      obtain ⟨hstamps, hdetails⟩ := Chart.ofAnswer_isOk_iff.mp ⟨chart, hc⟩
      have hreports : chart.reports = p.report.getD .empty := (Chart.shows_of_ofAnswer hc).reports
      have hmetrics := Metrics.aggregate_reads chart.reports
      simp only [hc]
      generalize Metrics.aggregate chart.reports = metrics at hmetrics
      rw [hreports] at hmetrics
      cases hmetrics with
      | ok m h => exact .ok _ ⟨hstamps, hdetails, h⟩
      | malformed text h => exact .malformed _ fun hcomplete => h hcomplete.reports

theorem Availability.marker_ok_iff (i : Nat) (r : StoredRange) (q : Point) :
    marker i r = .ok q ↔ StampOf r.start q.instant ∧ q.value = height := by
  rw [stampOf_iff, marker, resolveAt]
  cases Calendar.Timestamp.strict r.start with
  | error e => simp
  | ok t => cases q; simp [eq_comm]

theorem Availability.malformed_of_marker_error {i : Nat} {r : StoredRange} {e : Failure}
    (h : marker i r = .error e) : ∃ text, e = .malformed text := by
  simp only [marker, resolveAt] at h
  cases hs : Calendar.Timestamp.strict r.start with
  | ok t => simp only [hs, reduceCtorEq] at h
  | error fault =>
    rw [hs] at h
    cases h
    exact ⟨_, rfl⟩

theorem Availability.ofJson_reads (coin : String) (v : Json) :
    Reads (∃ rs, Json.readList StoredRange.read v = .ok rs ∧ ∀ r ∈ rs, Resolves r.start)
      (ofJson coin v) := by
  rw [ofJson]
  cases Json.readList StoredRange.read v with
  | error e => exact .malformed _ (by simp)
  | ok rs =>
    refine Reads.congr ?_ exists_ok_and_iff.symm
    have hiff : (∀ r ∈ rs, Resolves r.start) ↔ ∃ ps, resolveAll marker 0 rs = .ok ps := by
      rw [resolveAll_isOk_iff marker_ok_iff]
      refine forall₂_congr fun r _ => ⟨fun ⟨t, ht⟩ => ⟨⟨t, height⟩, ht, rfl⟩, ?_⟩
      rintro ⟨q, hq, -⟩
      exact ⟨q.instant, hq⟩
    refine Reads.congr ?_ hiff.symm
    simp only [ofRanges]
    cases hall : resolveAll marker 0 rs with
    | error e =>
      obtain ⟨i, r, -, hr⟩ := exists_of_resolveAll_error hall
      obtain ⟨text, rfl⟩ := malformed_of_marker_error hr
      exact .malformed text (by simp)
    | ok ps => exact .ok _ ⟨ps, rfl⟩

theorem Catalogue.ofJson_reads (v : Json) :
    Reads (∃ ids, Json.readOption (Json.readList Json.readText) v = .ok ids) (ofJson v) := by
  rw [ofJson]
  cases Json.readOption (Json.readList Json.readText) v with
  | error e => exact .malformed _ (by simp)
  | ok ids => exact .ok _ ⟨ids, rfl⟩

section

variable (c : Client) (body : List UInt8)

theorem Client.document_eq_ok_iff (endpoint : String) (v : Json) :
    c.document endpoint body = .ok v ↔ Json.ofBytes? body = some v := by
  rw [document]
  cases Json.ofBytes? body <;> simp

theorem Client.document_reads (endpoint : String) :
    Reads (Json.ofBytes? body ≠ none) (c.document endpoint body) := by
  rw [document]
  cases Json.ofBytes? body with
  | none => exact .malformed _ (by simp)
  | some v => exact .ok v (by simp)

theorem Client.document_bind_reads {α : Type} (op : Operation) {f : Json → Except Failure α}
    (hop : op ≠ .load) (hf : ∀ v, Reads (op.AnsweredBy v) (f v)) :
    Reads (op.Answers body) ((c.document op.endpoint body).bind f) := by
  simp only [document, Operation.Answers, hop, false_or]
  cases Json.ofBytes? body with
  | none => exact .malformed _ (by simp)
  | some v =>
    refine Reads.congr (hf v) ?_
    simp

end

/-- Reading succeeds on the bodies that answer the operation, and is malformed on all others. -/
theorem Client.readBody_reads (c : Client) (r : Request) (x : Response) :
    Reads (r.operation.Answers x.body) (c.readBody r x) := by
  cases r with
  | run config =>
    refine Reads.map ?_ _
    exact c.document_bind_reads x.body .run (by decide) Snapshot.ofJson_reads
  | train config =>
    refine Reads.map ?_ _
    exact c.document_bind_reads x.body .train (by decide) Snapshot.ofJson_reads
  | history range =>
    refine Reads.map ?_ _
    exact c.document_bind_reads x.body .history (by decide) (Availability.ofJson_reads _)
  | models =>
    refine Reads.map ?_ _
    exact c.document_bind_reads x.body .models (by decide) Catalogue.ofJson_reads
  | load range => exact .ok _ (.inl rfl)

/-! ## Replies -/

/-- A response that has arrived as a whole. Statuses without a body leave nothing to wait for. -/
def Arrival.whole? : Arrival → Option Response
  | .response x => some (if isBodiless x.status then { x with body := [] } else x)
  | .cutOff x => if isBodiless x.status then some { x with body := [] } else none
  | .dropped => none
  | .silent => none
  | .refused => none

/-- The complete response behind the redirects of a reply, unless there are too many. -/
def Reply.whole? (reply : Reply) : Option Response :=
  if maxRedirects < reply.redirects.length then none else reply.arrival.whole?

/-- The results that a reply to an operation leads to: the kind of a failure names its cause. -/
structure Reply.Classifies (reply : Reply) (c : Client) (op : Operation)
    (result : Except Failure Fetched) : Prop where
  network : (∃ text, result = .error (.network text)) ↔ reply.whole? = none
  backend : ∀ status text, result = .error (.backend status text) ↔
    ∃ x, reply.whole? = some x ∧ x.status = status ∧ isSuccess status = false ∧
      text = Text.ofBody (x.contentType.bind c.libraries.decoder?) x.body
  malformed : (∃ text, result = .error (.malformed text)) ↔
    ∃ x, reply.whole? = some x ∧ isSuccess x.status = true ∧ ¬ op.Answers x.body
  fetched : (∃ a, result = .ok a) ↔
    ∃ x, reply.whole? = some x ∧ isSuccess x.status = true ∧ op.Answers x.body
  built : ∀ text, result ≠ .error (.invalidConfig text)

theorem Client.settleAt_of_whole {c : Client} {endpoint : String} {u : Url} {arrival : Arrival}
    {x : Response} (h : arrival.whole? = some x) :
    c.settleAt endpoint u arrival =
      if isSuccess x.status then .ok x else .error (.backend x.status (c.textOf x)) := by
  cases arrival with
  | response y =>
    cases h
    simp only [settleAt, complete]
  | cutOff y =>
    simp only [Arrival.whole?] at h
    split at h
    · rename_i hs
      cases h
      simp only [settleAt, complete, hs, if_true]
    · cases h
  | dropped => cases h
  | silent => cases h
  | refused => cases h

theorem Client.settleAt_of_not_whole (c : Client) {endpoint : String} {u : Url} {arrival : Arrival}
    (h : arrival.whole? = none) :
    ∃ text, c.settleAt endpoint u arrival = .error (.network text) := by
  cases arrival with
  | response x => cases h
  | cutOff x =>
    simp only [Arrival.whole?] at h
    split at h
    · cases h
    · rename_i hs
      simp only [settleAt, hs, Bool.false_eq_true, if_false]
      exact ⟨_, rfl⟩
  | dropped => exact ⟨_, rfl⟩
  | silent => exact ⟨_, rfl⟩
  | refused => exact ⟨_, rfl⟩

theorem Client.settle_of_whole {c : Client} {endpoint : String} {u : Url} {reply : Reply}
    {x : Response} (h : reply.whole? = some x) :
    c.settle endpoint u reply =
      if isSuccess x.status then .ok x else .error (.backend x.status (c.textOf x)) := by
  rw [Reply.whole?] at h
  rw [settle]
  split at h
  · cases h
  · rename_i hfew
    rw [if_neg hfew, settleAt_of_whole h]

theorem Client.settle_of_not_whole (c : Client) {endpoint : String} {u : Url} {reply : Reply}
    (h : reply.whole? = none) : ∃ text, c.settle endpoint u reply = .error (.network text) := by
  rw [Reply.whole?] at h
  rw [settle]
  split at h
  · rename_i hmany
    rw [if_pos hmany]
    exact ⟨_, rfl⟩
  · rename_i hfew
    rw [if_neg hfew]
    exact c.settleAt_of_not_whole h

section

variable {reply : Reply} {c : Client} {op : Operation} {x : Response}

theorem Reply.classifies_network (hw : reply.whole? = none) (text : String) :
    reply.Classifies c op (.error (.network text)) := by
  constructor <;> simp [hw]

theorem Reply.classifies_backend (hw : reply.whole? = some x) (hs : isSuccess x.status = false) :
    reply.Classifies c op (.error (.backend x.status (c.textOf x))) where
  network := by simp [hw]
  backend := by
    intro status text
    rw [hw]
    constructor
    · intro h
      cases h
      exact ⟨x, rfl, rfl, hs, rfl⟩
    · rintro ⟨y, hy, rfl, -, rfl⟩
      cases hy
      rfl
  malformed := by simp [hw, hs]
  fetched := by simp [hw, hs]
  built := by simp

theorem Reply.classifies_reading (hw : reply.whole? = some x) (hs : isSuccess x.status = true)
    {result : Except Failure Fetched} (h : Reads (op.Answers x.body) result) :
    reply.Classifies c op result := by
  have hbackend : ∀ status text, ¬ ∃ y, reply.whole? = some y ∧ y.status = status ∧
      isSuccess status = false ∧ text = Text.ofBody (y.contentType.bind c.libraries.decoder?) y.body
      := by
    rintro status text ⟨y, hy, rfl, hfailed, -⟩
    rw [hw] at hy
    cases hy
    rw [hs] at hfailed
    cases hfailed
  cases h with
  | ok a h =>
    exact {
      network := by simp [hw]
      backend := fun status' text => iff_of_false (by simp) (hbackend status' text)
      malformed := by simp [hw, h]
      fetched := by simp [hw, hs, h]
      built := by simp }
  | malformed text h =>
    exact {
      network := by simp [hw]
      backend := fun status' text => iff_of_false (by simp) (hbackend status' text)
      malformed := by simp [hw, hs, h]
      fetched := by simp [hw, h]
      built := by simp }

end

/-- Settling a reply and reading its body tells the cause of every failure. -/
theorem Client.classifies_settle (c : Client) (r : Request) (u : Url) (reply : Reply) :
    reply.Classifies c r.operation
      ((c.settle r.operation.endpoint u reply).bind (c.readBody r)) := by
  cases hw : reply.whole? with
  | none =>
    obtain ⟨text, hsettle⟩ := c.settle_of_not_whole (u := u) hw
    rw [hsettle]
    exact Reply.classifies_network hw text
  | some x =>
    rw [settle_of_whole hw]
    cases hs : isSuccess x.status with
    | true =>
      rw [if_pos rfl]
      exact Reply.classifies_reading hw hs (c.readBody_reads r x)
    | false =>
      rw [if_neg Bool.false_ne_true]
      exact Reply.classifies_backend hw hs

/-! ## Requests that are sent -/

theorem isPlainSegment_endpoint (op : Operation) : Url.isPlainSegment op.endpoint.toList := by
  cases op <;> decide

/-- A request is made at its address, unless no connection is made there, and then where redirects
lead. -/
theorem Reply.asked_cases (reply : Reply) (u : Url) :
    reply = .direct .refused ∧ reply.asked u = [] ∨
      reply ≠ .direct .refused ∧
        ∃ followed, followed <+: reply.redirects ∧ reply.asked u = u :: followed := by
  obtain ⟨redirects, arrival⟩ := reply
  cases redirects with
  | nil =>
    cases arrival with
    | refused => exact .inl ⟨rfl, rfl⟩
    | _ => exact .inr ⟨by simp [direct], [], List.prefix_rfl, rfl⟩
  | cons v vs =>
    obtain ⟨n, hn⟩ : ∃ n, maxRedirects = n + 1 := ⟨9, rfl⟩
    have htake := List.take_prefix (n + 1) (v :: vs)
    refine .inr ⟨by simp [direct], ?_⟩
    simp only [asked, hn]
    rw [List.take_succ_cons] at htake ⊢
    split
    · exact ⟨_, (List.dropLast_prefix _).trans htake, List.dropLast_cons_cons⟩
    · exact ⟨_, htake, rfl⟩

theorem Reply.sent_eq (reply : Reply) (u : Url) (accept : String) :
    ∃ followed, followed <+: reply.redirects ∧
      reply.sent u accept = if reply = .direct .refused then [] else [⟨u, accept, followed⟩] := by
  obtain ⟨hrefused, hnone⟩ | ⟨hmade, followed, hprefix, hmany⟩ := reply.asked_cases u
  · refine ⟨[], List.nil_prefix, ?_⟩
    rw [if_pos hrefused, sent, hnone]
  · refine ⟨followed, hprefix, ?_⟩
    rw [if_neg hmade, sent, hmany]

/-- What is sent for an operation: to host and port of the base, under its path, with the pairs. -/
structure Sent.Asks (s : Sent) (b : PlainBase) (op : Operation) (pairs : List (String × String)) :
    Prop where
  scheme : s.url.scheme = Url.http
  authority : s.url.authority = some ⟨.empty, b.address, PlainBase.shownPort b.port⟩
  path : s.url.path = Url.pathOf b.segments ++ '/' :: op.endpoint.toList
  query : Text.Form.decode (String.ofList (s.url.query.getD [])) = pairs
  fragment : s.url.fragment = none
  accept : s.accept = op.accept

theorem Sent.asks_request (b : PlainBase) (op : Operation) (pairs : List (String × String))
    (followed : List Url) :
    Sent.Asks ⟨b.request op.endpoint pairs, op.accept, followed⟩ b op pairs := by
  refine ⟨rfl, rfl, rfl, ?_, rfl, rfl⟩
  cases pairs with
  | nil => rfl
  | cons p ps =>
    simp only [PlainBase.request, List.isEmpty_cons, Bool.false_eq_true, if_false, Option.getD_some,
      String.ofList_toList, Text.Form.decode_encode]

theorem Request.invalidConfig_of_build_error {r : Request} {e : Failure} (h : r.build = .error e) :
    ∃ text, e = .invalidConfig text := by
  simp only [build] at h
  split at h
  · cases h
    exact ⟨_, rfl⟩
  · cases h

section

variable (b : PlainBase) (libraries : Libraries) (timeoutMs : Nat) (r : Request) (reply : Reply)

/-- The address of a request with its parameters. -/
def PlainBase.addressOf (ps : Parameters) : Url :=
  b.request r.operation.endpoint ps.pairs

/-- Without a connection nothing is sent, and otherwise one request, made again only where redirects
lead. -/
theorem Reply.sent_addressOf (ps : Parameters) :
    (reply.sent (b.addressOf r ps) r.operation.accept = [] ↔ reply = .direct .refused) ∧
    (reply.sent (b.addressOf r ps) r.operation.accept).length ≤ 1 ∧
    ∀ s ∈ reply.sent (b.addressOf r ps) r.operation.accept,
      s.Asks b r.operation ps.pairs ∧ s.followed <+: reply.redirects := by
  obtain ⟨followed, hfollowed, hsent⟩ := reply.sent_eq (b.addressOf r ps) r.operation.accept
  rw [hsent]
  split
  · rename_i hrefused
    exact ⟨⟨fun _ => hrefused, fun _ => rfl⟩, Nat.zero_le 1, List.forall_mem_nil _⟩
  · rename_i hmade
    refine ⟨⟨fun h => absurd h (List.cons_ne_nil _ _), fun h => absurd h hmade⟩, Nat.le_refl 1, ?_⟩
    have hasks := Sent.asks_request b r.operation ps.pairs followed
    exact List.forall_mem_singleton.mpr ⟨hasks, hfollowed⟩

theorem Client.fetch_of_build_error {c : Client} {e : Failure} (h : r.build = .error e) :
    c.fetch r reply = .failed e := by
  rw [fetch_eq, h]

theorem Client.fetch_of_short {ps : Parameters} (hb : r.build = .ok ps)
    (hlen : (b.addressOf r ps).chars.length ≤ Url.longest) :
    (b.client libraries timeoutMs).fetch r reply =
      ⟨((b.client libraries timeoutMs).settle r.operation.endpoint (b.addressOf r ps) reply).bind
          ((b.client libraries timeoutMs).readBody r),
        reply.sent (b.addressOf r ps) r.operation.accept⟩ := by
  have haddress : Url.forRequest ((b.client libraries timeoutMs).url r.operation.endpoint ps) =
      .ok (b.addressOf r ps) := by
    rw [b.forRequest_url libraries timeoutMs ps (isPlainSegment_endpoint r.operation)]
    exact if_pos hlen
  simp only [fetch_eq, hb, send, haddress]
  exact Exchange.map_mk _ _ _

theorem Client.fetch_of_long {ps : Parameters} (hb : r.build = .ok ps)
    (hlen : Url.longest < (b.addressOf r ps).chars.length) :
    (b.client libraries timeoutMs).fetch r reply =
      .failed
        (broken r.operation.endpoint (Url.Fault.unusable (b.addressOf r ps).text).message) := by
  have haddress : Url.forRequest ((b.client libraries timeoutMs).url r.operation.endpoint ps) =
      .error (.unusable (b.addressOf r ps).text) := by
    rw [b.forRequest_url libraries timeoutMs ps (isPlainSegment_endpoint r.operation)]
    exact if_neg (Nat.not_le.mpr hlen)
  simp only [fetch_eq, hb, send, haddress]
  exact Exchange.map_mk _ _ _

end

/-! ### Addresses that are too long -/

/-- A base on this machine. -/
def PlainBase.onThisMachine : PlainBase where
  host := "127.0.0.1".toList
  address := .ipv4 ⟨0x7F000001⟩
  port := some 8080
  segments := ["test".toList]
  host_chars := List.all_eq_true.mp (by decide)
  host_plain := by decide +kernel
  host_address := by decide +kernel
  port_le := fun n h => by cases h; decide
  segments_plain := List.all_eq_true.mp (by decide)

theorem trim_of_notBlank {s : String} (h : ∀ c ∈ s.toList, Text.isBlank c = false) :
    Text.trim s = s := by
  have hskip : ∀ cs : List Char, (∀ c ∈ cs, Text.isBlank c = false) → Text.skipBlanks cs = cs := by
    intro cs hcs
    cases cs with
    | nil => rfl
    | cons c cs =>
      rw [Text.skipBlanks, List.dropWhile_cons_of_neg]
      rw [hcs c List.mem_cons_self]
      exact Bool.false_ne_true
  rw [Text.trim, Text.trimChars, hskip _ h, hskip _ fun c hc => h c (List.mem_reverse.mp hc),
    List.reverse_reverse, String.ofList_toList]

theorem DayRange.coin_mem_pairs (range : DayRange) :
    ("coin", Text.trim range.coin) ∈ range.parameters.pairs :=
  List.mem_cons_self

/-- A load is not sent when its coin alone fills an address. -/
theorem Client.long_coin_not_sent (b : PlainBase) (libraries : Libraries) (timeoutMs : Nat)
    {range : DayRange}
    (hb : (Request.load range).build = .ok range.parameters)
    (hlen : Url.longest ≤ (Text.trim range.coin).toList.length) (reply : Reply) :
    ((b.client libraries timeoutMs).fetch (.load range) reply).sent = [] ∧
      ∃ text, ((b.client libraries timeoutMs).fetch (.load range) reply).result =
        .error (.network text) := by
  have haddress := b.length_lt_request Operation.load.endpoint range.coin_mem_pairs
  rw [fetch_of_long b libraries timeoutMs _ reply hb (Nat.lt_of_le_of_lt hlen haddress)]
  exact ⟨rfl, _, rfl⟩

/-- A coin of one letter, many times over. -/
def longCoin (n : Nat) : String :=
  String.ofList (List.replicate n 'A')

theorem longCoin_notBlank (n : Nat) : ∀ c ∈ (longCoin n).toList, Text.isBlank c = false := by
  intro c hc
  rw [longCoin, String.toList_ofList] at hc
  rw [List.eq_of_mem_replicate hc]
  decide

def someDay : Calendar.Date := ⟨2024, 1, 1, by decide⟩

def longLoad (n : Nat) : DayRange :=
  ⟨longCoin n, someDay, someDay⟩

theorem build_longLoad {n : Nat} (hn : 0 < n) :
    (Request.load (longLoad n)).build = .ok (longLoad n).parameters := by
  have hcoin : Text.isBlankText (longCoin n) = false := by
    rw [Text.isBlankText, List.all_eq_false]
    refine ⟨'A', ?_, by decide⟩
    rw [longCoin, String.toList_ofList, List.mem_replicate]
    exact ⟨Nat.ne_of_gt hn, rfl⟩
  have hdays : someDay.le someDay = true := by decide
  simp only [longLoad, Request.build, Request.violation?, Request.checks, DayRange.checks, check,
    hcoin, hdays, Bool.not_false, if_true]
  rfl

theorem Client.refused_not_sent (c : Client) (r : Request) :
    (c.fetch r (.direct .refused)).sent = [] := by
  rw [fetch_eq]
  cases r.build with
  | error e => rfl
  | ok ps =>
    simp only [send]
    cases Url.forRequest (c.url r.operation.endpoint ps) <;> rfl

/-! ### All requests -/

/-- The kind of a failure names its cause, for every configuration and every reply. A configuration
is refused exactly when it breaks a rule, and then nothing is sent. Otherwise one request goes to
the endpoint of its operation with the pairs of its parameters, unless no connection is made, and
the result tells what became of the reply; it is made again only where redirects lead. An address
that is longer than any request may have is a failure of the network, and nothing is sent. -/
theorem Client.failures_classified (b : PlainBase) (libraries : Libraries) (timeoutMs : Nat)
    (r : Request) (reply : Reply) :
    ((∃ text, ((b.client libraries timeoutMs).fetch r reply).result =
        .error (.invalidConfig text)) ↔ ∃ e, r.build = .error e) ∧
    (∀ e, r.build = .error e → (b.client libraries timeoutMs).fetch r reply = .failed e) ∧
    ∀ ps, r.build = .ok ps →
      if (b.addressOf r ps).chars.length ≤ Url.longest then
        reply.Classifies (b.client libraries timeoutMs) r.operation
          ((b.client libraries timeoutMs).fetch r reply).result ∧
        (((b.client libraries timeoutMs).fetch r reply).sent = [] ↔ reply = .direct .refused) ∧
        ((b.client libraries timeoutMs).fetch r reply).sent.length ≤ 1 ∧
        ∀ s ∈ ((b.client libraries timeoutMs).fetch r reply).sent,
          s.Asks b r.operation ps.pairs ∧ s.followed <+: reply.redirects
      else
        (∃ text, ((b.client libraries timeoutMs).fetch r reply).result =
          .error (.network text)) ∧
        ((b.client libraries timeoutMs).fetch r reply).sent = [] := by
  cases hb : r.build with
  | error e =>
    obtain ⟨text, rfl⟩ := Request.invalidConfig_of_build_error hb
    rw [fetch_of_build_error r reply hb]
    refine ⟨⟨fun _ => ⟨_, rfl⟩, fun _ => ⟨text, rfl⟩⟩, fun e he => ?_, fun ps hps => ?_⟩
    · cases he
      rfl
    · cases hps
  | ok ps =>
    by_cases hlen : (b.addressOf r ps).chars.length ≤ Url.longest
    · rw [fetch_of_short b libraries timeoutMs r reply hb hlen]
      have hclass := classifies_settle (b.client libraries timeoutMs) r (b.addressOf r ps) reply
      refine ⟨⟨fun ⟨text, h⟩ => absurd h (hclass.built text), fun ⟨e, h⟩ => ?_⟩, fun e h => ?_,
        fun ps' hps => ?_⟩
      · cases h
      · cases h
      cases hps
      rw [if_pos hlen]
      exact ⟨hclass, reply.sent_addressOf b r ps⟩
    · rw [fetch_of_long b libraries timeoutMs r reply hb (Nat.not_le.mp hlen)]
      refine ⟨⟨fun ⟨text, h⟩ => ?_, fun ⟨e, h⟩ => ?_⟩, fun e h => ?_, fun ps' hps => ?_⟩
      · cases h
      · cases h
      · cases h
      cases hps
      rw [if_neg hlen]
      exact ⟨⟨_, rfl⟩, rfl⟩

/-- Libraries that know no encoding but UTF-8. -/
def Libraries.plain : Libraries where
  decoder? _ := none
  documentFault _ := "no document"

/-- A client of a base on this machine. -/
def Client.onThisMachine : Client :=
  PlainBase.onThisMachine.client .plain 20000

/-- A response with the letter x. -/
def Response.letter : Response :=
  ⟨200, none, [0x78]⟩

/-- Not every request that keeps its rules is sent: a load with a long coin fails as one of the
network although the backend would answer it, and no request is sent without a connection. -/
theorem Client.not_all_sent :
    (Request.load (longLoad 70000)).build = .ok (longLoad 70000).parameters ∧
    (Reply.direct (.response .letter)).whole? = some .letter ∧
    (onThisMachine.fetch (.load (longLoad 70000)) (.direct (.response .letter))).sent = [] ∧
    (∃ text, (onThisMachine.fetch (.load (longLoad 70000))
      (.direct (.response .letter))).result = .error (.network text)) ∧
    Request.models.build = .ok .empty ∧
    (onThisMachine.fetch .models (.direct .refused)).sent = [] := by
  have hb : (Request.load (longLoad 70000)).build = .ok (longLoad 70000).parameters :=
    build_longLoad (by decide)
  have hlen : Url.longest ≤ (Text.trim (longLoad 70000).coin).toList.length := by
    rw [longLoad, trim_of_notBlank (longCoin_notBlank 70000), longCoin, String.toList_ofList,
      List.length_replicate]
    decide
  obtain ⟨hsent, hresult⟩ := long_coin_not_sent PlainBase.onThisMachine .plain 20000 hb hlen
    (.direct (.response .letter))
  exact ⟨hb, rfl, hsent, hresult, rfl, refused_not_sent _ _⟩

end BacktestDesk
