import BacktestDesk.Proofs.FetchTaxonomy

/-!
# BacktestDesk.Proofs.CallAgreement

The calls for a text, for a document and for a value are one request and tell its failures alike;
they differ in what they read in the body of a successful response.

* `PlainBase.forRequest_endpoint`: every endpoint of a plain base has an address, which is that of
  the request unless it is too long.
* `Client.calls_of_address`, `Client.calls_of_fault`: the calls send, settle and read in this order.
* `Calls.agree_of_address`: settling a reply and reading its body keeps the calls in agreement.
-/

namespace BacktestDesk

/-! ## Addresses of any endpoint -/

namespace PlainBase

open Url

theorem chars_visible (b : PlainBase) : ∀ c ∈ b.chars ++ ['/'], 0x20 < c.toNat := by
  have hplain : isPlainSegment "".toList := by decide
  have hchars : b.requestChars "" [] = b.chars ++ ['/'] := List.append_nil _
  rw [← hchars]
  exact b.toNat_of_mem hplain []

/-- Behind the region of a base there is always a slash. -/
theorem exists_slash (b : PlainBase) (rest : List Char) :
    ∃ behind, b.chars ++ '/' :: rest =
      http ++ ':' :: '/' :: '/' :: (b.region ++ '/' :: behind) := by
  have hpath : ∃ behind, pathOf b.segments ++ '/' :: rest = '/' :: behind := by
    cases b.segments with
    | nil => exact ⟨rest, rfl⟩
    | cons s ss => exact ⟨_, rfl⟩
  obtain ⟨behind, hbehind⟩ := hpath
  refine ⟨behind, ?_⟩
  rw [← hbehind]
  simp only [chars, List.append_assoc, List.cons_append]

/-- What is asked of this base goes to its host and port, whatever the endpoint is. -/
structure Serves (b : PlainBase) (u : Url) : Prop where
  scheme : u.scheme = http
  authority : u.authority = some ⟨.empty, b.address, shownPort b.port⟩

theorem ofAuthority?_serves (b : PlainBase) (behind : List Char) :
    ∃ u, ofAuthority? http (b.region ++ '/' :: behind) = some u ∧ b.Serves u := by
  simp only [ofAuthority?, b.takeWhile_region, List.drop_left, b.ofText?_region]
  exact ⟨_, rfl, rfl, rfl⟩

theorem ofText?_serves (b : PlainBase) {s : String} {rest : List Char}
    (hs : s.toList = b.chars ++ '/' :: rest) : ∃ u, Url.ofText? s = some u ∧ b.Serves u := by
  have hscheme : ∀ rest, scheme? (http ++ ':' :: rest) = some (http, rest) := fun rest => rfl
  have hfile : isFile http = false := by decide
  have hspecial : isSpecial http = true := by decide
  have hslashes : ∀ behind, ('/' :: '/' :: (b.region ++ behind)).dropWhile isSlash =
      b.region ++ behind := by
    intro behind
    rw [List.dropWhile_cons_of_pos (by decide), List.dropWhile_cons_of_pos (by decide)]
    exact b.dropWhile_region _
  have hne : b.chars ++ ['/'] ≠ [] := List.append_ne_nil_of_right_ne_nil _ (List.cons_ne_nil _ _)
  have hclean := clean_append hne b.chars_visible rest
  rw [List.append_assoc, List.append_assoc, List.singleton_append, List.singleton_append] at hclean
  obtain ⟨behind, hbehind⟩ := b.exists_slash _
  obtain ⟨u, hu, hserves⟩ := b.ofAuthority?_serves behind
  refine ⟨u, ?_, hserves⟩
  rw [Url.ofText?, hs, hclean, hbehind, hscheme]
  simp only [hfile, hspecial, Bool.false_eq_true, if_false, if_true, hslashes, hu]

theorem Serves.isUsable_eq {b : PlainBase} {u : Url} (h : b.Serves u) :
    u.isUsable = decide (u.chars.length ≤ longest) := by
  have hscheme : requestSchemes.contains http = true := by decide
  have hhost : u.hostChars = (b.request "" []).hostChars := by
    rw [hostChars, h.authority]
    rfl
  rw [isUsable, hhost, hostChars_sendable, h.scheme, hscheme, Bool.not_false, Bool.and_self,
    Bool.true_and]

theorem Serves.withoutCredentials_eq {b : PlainBase} {u : Url} (h : b.Serves u) :
    u.withoutCredentials = u := by
  have hsame : u.authority.map Authority.withoutCredentials = u.authority := by
    rw [h.authority]
    rfl
  rw [withoutCredentials, hsame]

/-- The address of any endpoint, with the parameters behind it. -/
theorem forRequest_endpoint (b : PlainBase) (libraries : Libraries) (timeoutMs : Nat)
    (endpoint : String) (ps : Parameters) :
    ∃ u, Url.ofText? ((b.client libraries timeoutMs).url endpoint ps) = some u ∧ b.Serves u ∧
      (isPlainSegment endpoint.toList → u = b.request endpoint ps.pairs) ∧
      Url.forRequest ((b.client libraries timeoutMs).url endpoint ps) =
        if u.chars.length ≤ longest then .ok u else .error (.unusable u.text) := by
  have hchars := b.url_eq libraries timeoutMs endpoint ps
  have hfront : ((b.client libraries timeoutMs).url endpoint ps).toList =
      b.chars ++ '/' :: (endpoint.toList ++ queryChars (b.request endpoint ps.pairs).query) := by
    rw [hchars, requestChars, List.append_assoc, List.cons_append]
  obtain ⟨u, hu, hserves⟩ := b.ofText?_serves hfront
  refine ⟨u, hu, hserves, fun he => ?_, ?_⟩
  · have hplain := b.ofText?_eq he ps.pairs hchars
    exact Option.some.inj (hu.symm.trans hplain)
  · simp only [Url.forRequest, hu, hserves.withoutCredentials_eq, hserves.isUsable_eq,
      decide_eq_true_eq]

end PlainBase

/-- The parameters of a request for a long coin. -/
def longCoinParameters (n : Nat) : Parameters :=
  ⟨[("coin", .scalar (longCoin n))]⟩

theorem PlainBase.forRequest_longCoin (b : PlainBase) (libraries : Libraries) (timeoutMs : Nat)
    {n : Nat} (hn : Url.longest ≤ n) :
    ∃ e, Url.forRequest ((b.client libraries timeoutMs).url "load" (longCoinParameters n)) =
      .error e := by
  have hplain : Url.isPlainSegment "load".toList := by decide
  have hcoin : ("coin", longCoin n) ∈ (longCoinParameters n).pairs := List.mem_cons_self
  have haddress := b.length_lt_request "load" hcoin
  rw [longCoin, String.toList_ofList, List.length_replicate] at haddress
  rw [b.forRequest_url libraries timeoutMs _ hplain,
    if_neg (Nat.not_le.mpr (Nat.lt_of_le_of_lt hn haddress))]
  exact ⟨_, rfl⟩

/-! ## The three calls -/

/-- What the calls of one request bring. -/
structure Calls (α : Type) where
  text : Exchange String
  document : Exchange Json
  value : Exchange α

namespace Client

variable {α : Type} (c : Client) (read : Json.Reading α) (endpoint : String) (ps : Parameters)
  (reply : Reply)

def calls : Calls α :=
  ⟨c.callText endpoint ps reply, c.call endpoint ps reply, c.callAs read endpoint ps reply⟩

/-- The value in a document, as a call for one reads it. -/
def readValue (v : Json) : Except Failure α :=
  match read v with
  | .ok x => .ok x
  | .error e => .error (.malformed ("unexpected " ++ endpoint ++ " response shape: " ++ e.message))

end Client

namespace Calls

variable {α : Type} (calls : Calls α)

/-- Each call sends one request to an address, which is made again at the addresses behind it, or
none of them sends any. They ask for another form of the body, and for nothing else that differs. -/
structure Send (made : Option (Url × List Url)) : Prop where
  text : calls.text.sent = made.toList.map fun m => ⟨m.1, "text/plain", m.2⟩
  document : calls.document.sent = made.toList.map fun m => ⟨m.1, "application/json", m.2⟩
  value : calls.value.sent = made.toList.map fun m => ⟨m.1, "application/json", m.2⟩

/-- All calls end in one failure. -/
structure FailWith (e : Failure) : Prop where
  text : calls.text.result = .error e
  document : calls.document.result = .error e
  value : calls.value.result = .error e

/-- What the calls read in the body of a successful response. A text is read in every body, a
document in those that are one, and a value in the documents that hold one. -/
structure ReadBody (read : Json.Reading α) (text : String) (body : List UInt8) : Prop where
  text : calls.text.result = .ok text
  document : ∀ v, calls.document.result = .ok v ↔ Json.ofBytes? body = some v
  no_document : (∃ reason, calls.document.result = .error (.malformed reason)) ↔
    Json.ofBytes? body = none
  value : ∀ x, calls.value.result = .ok x ↔ ∃ v, calls.document.result = .ok v ∧ read v = .ok x
  no_value : (∃ reason, calls.value.result = .error (.malformed reason)) ↔
    ¬ ∃ x, calls.value.result = .ok x

/-- The results of the calls that one reply leads to. What is no successful response is the same
failure for all of them. -/
def Agree (c : Client) (read : Json.Reading α) (reply : Reply) : Prop :=
  match reply.whole? with
  | none => ∃ reason, calls.FailWith (.network reason)
  | some x =>
    let text := Text.ofBody (x.contentType.bind c.libraries.decoder?) x.body
    if isSuccess x.status then calls.ReadBody read text x.body
    else calls.FailWith (.backend x.status text)

/-- No call blames the configuration. -/
structure Configured : Prop where
  text : ∀ reason, calls.text.result ≠ .error (.invalidConfig reason)
  document : ∀ reason, calls.document.result ≠ .error (.invalidConfig reason)
  value : ∀ reason, calls.value.result ≠ .error (.invalidConfig reason)

end Calls

namespace Client

variable {α : Type} {c : Client} {read : Json.Reading α} {endpoint : String} {ps : Parameters}
  {reply : Reply} {u : Url}

theorem callAs_eq : c.callAs read endpoint ps reply =
    (c.call endpoint ps reply).map (readValue read endpoint) := by
  rw [callAs]
  congr

theorem send_of_address (h : Url.forRequest (c.url endpoint ps) = .ok u) {accept : String} :
    c.send accept endpoint ps reply = ⟨c.settle endpoint u reply, reply.sent u accept⟩ := by
  simp only [send, h]

theorem send_of_fault {e : Url.Fault} (h : Url.forRequest (c.url endpoint ps) = .error e)
    {accept : String} : c.send accept endpoint ps reply = .failed (broken endpoint e.message) := by
  simp only [send, h]

/-- The calls of a request that has an address. -/
theorem calls_of_address (h : Url.forRequest (c.url endpoint ps) = .ok u) :
    c.calls read endpoint ps reply =
      ⟨⟨(c.settle endpoint u reply).bind fun x => .ok (c.textOf x), reply.sent u "text/plain"⟩,
        ⟨(c.settle endpoint u reply).bind fun x => c.document endpoint x.body,
          reply.sent u "application/json"⟩,
        ⟨((c.settle endpoint u reply).bind fun x => c.document endpoint x.body).bind
            (readValue read endpoint), reply.sent u "application/json"⟩⟩ := by
  have hcall : c.call endpoint ps reply =
      ⟨(c.settle endpoint u reply).bind fun x => c.document endpoint x.body,
        reply.sent u "application/json"⟩ := by
    rw [call, send_of_address h]
    exact Exchange.map_mk _ _ _
  rw [calls, callAs_eq, callText, hcall, send_of_address h, Exchange.map_mk, Exchange.map_mk]

/-- The calls of a request that has none. -/
theorem calls_of_fault {e : Url.Fault} (h : Url.forRequest (c.url endpoint ps) = .error e) :
    c.calls read endpoint ps reply =
      ⟨.failed (broken endpoint e.message), .failed (broken endpoint e.message),
        .failed (broken endpoint e.message)⟩ := by
  simp only [calls, callText, callAs, call, send_of_fault h]
  rfl

end Client

/-! ## Agreement -/

namespace Client

variable {α : Type} (c : Client) (read : Json.Reading α) (endpoint : String) (body : List UInt8)

/-- A value is read when the body is a document and the document holds the value. -/
theorem document_bind_eq_ok_iff (x : α) :
    (c.document endpoint body).bind (readValue read endpoint) = .ok x ↔
      ∃ v, c.document endpoint body = .ok v ∧ read v = .ok x := by
  cases c.document endpoint body with
  | error e => simp [Except.bind]
  | ok v =>
    have hvalue : readValue read endpoint v = .ok x ↔ read v = .ok x := by
      rw [readValue]
      cases read v <;> simp
    simp [Except.bind, hvalue]

theorem document_bind_value_reads :
    Reads (∃ v x, c.document endpoint body = .ok v ∧ read v = .ok x)
      ((c.document endpoint body).bind (readValue read endpoint)) := by
  have hdocument := c.document_reads body endpoint
  generalize c.document endpoint body = document at hdocument
  cases hdocument with
  | malformed reason _ => exact .malformed reason (by simp)
  | ok v _ =>
    cases hv : read v with
    | error e =>
      simp only [Except.bind, readValue, hv]
      exact .malformed _ (by simp [hv])
    | ok x =>
      simp only [Except.bind, readValue, hv]
      exact .ok x ⟨v, x, rfl, hv⟩

end Client

namespace Calls

variable {α : Type} (read : Json.Reading α) {c : Client} {endpoint : String} {ps : Parameters}
  {u : Url} {reply : Reply}

/-- A reply that is settled as a failure is that failure for every call. -/
theorem failWith_of_settle (h : Url.forRequest (c.url endpoint ps) = .ok u) {e : Failure}
    (hsettle : c.settle endpoint u reply = .error e) :
    (c.calls read endpoint ps reply).FailWith e := by
  rw [Client.calls_of_address h, hsettle]
  exact ⟨rfl, rfl, rfl⟩

theorem readBody_of_settle (h : Url.forRequest (c.url endpoint ps) = .ok u) {x : Response}
    (hsettle : c.settle endpoint u reply = .ok x) :
    (c.calls read endpoint ps reply).ReadBody read (c.textOf x) x.body := by
  rw [Client.calls_of_address h, hsettle]
  obtain ⟨hnodocument, -⟩ := (c.document_reads x.body endpoint).outcome
  obtain ⟨hnovalue, hsome⟩ := (c.document_bind_value_reads read endpoint x.body).outcome
  exact {
    text := rfl
    document := c.document_eq_ok_iff x.body endpoint
    no_document := hnodocument.trans not_not
    value := c.document_bind_eq_ok_iff read endpoint x.body
    no_value := hnovalue.trans (not_congr hsome.symm) }

/-- The calls of a request that is sent agree on the reply. -/
theorem agree_of_address (h : Url.forRequest (c.url endpoint ps) = .ok u) (reply : Reply) :
    (c.calls read endpoint ps reply).Agree c read reply := by
  rw [Agree]
  cases hw : reply.whole? with
  | none =>
    obtain ⟨reason, hsettle⟩ : ∃ reason, c.settle endpoint u reply = .error (.network reason) :=
      c.settle_of_not_whole hw
    exact ⟨reason, failWith_of_settle read h hsettle⟩
  | some x =>
    have hsettle : c.settle endpoint u reply = _ := Client.settle_of_whole hw
    cases hs : isSuccess x.status with
    | true =>
      rw [hs, if_pos rfl] at hsettle
      simp only [hs, if_true]
      exact readBody_of_settle read h hsettle
    | false =>
      rw [hs, if_neg Bool.false_ne_true] at hsettle
      simp only [hs, Bool.false_eq_true, if_false]
      exact failWith_of_settle read h hsettle

variable {read : Json.Reading α} {calls : Calls α}

theorem FailWith.configured {e : Failure} (h : calls.FailWith e)
    (he : ∀ reason, e ≠ .invalidConfig reason) : calls.Configured := by
  have hfailed : ∀ {β : Type} {x : Except Failure β}, x = .error e →
      ∀ reason, x ≠ .error (.invalidConfig reason) := by
    rintro β x rfl reason hx
    exact he reason (Except.error.inj hx)
  exact ⟨hfailed h.text, hfailed h.document, hfailed h.value⟩

theorem ReadBody.configured {text : String} {body : List UInt8}
    (h : calls.ReadBody read text body) : calls.Configured := by
  have hread : ∀ {β : Type} {x : Except Failure β},
      ((∃ reason, x = .error (.malformed reason)) ∨ ∃ a, x = .ok a) →
      ∀ reason, x ≠ .error (.invalidConfig reason) := by
    rintro β x (⟨malformed, rfl⟩ | ⟨a, rfl⟩) reason hx <;> cases hx
  refine ⟨hread (.inr ⟨_, h.text⟩), hread ?_, hread ?_⟩
  · cases hv : Json.ofBytes? body with
    | none => exact .inl (h.no_document.mpr hv)
    | some v => exact .inr ⟨v, (h.document v).mpr hv⟩
  · rw [h.no_value]
    exact (em _).symm

theorem Agree.configured (h : calls.Agree c read reply) : calls.Configured := by
  rw [Agree] at h
  split at h
  · obtain ⟨reason, hfail⟩ := h
    exact hfail.configured (by simp)
  · split at h
    · exact ReadBody.configured h
    · exact FailWith.configured h (by simp)

end Calls

/-- The calls for a text, a document and a value are one request, for every endpoint and all
parameters, and agree on every reply.

* With an address they send one request to it, unless no connection is made; it is made again only
  where redirects lead. Failures of the network and of the backend are the same for all calls. Of a
  successful response the text is always read, the document if the body is one, and the value if the
  document holds it.
* Without one nothing is sent, and all calls fail in the same way as the network does.
* The configuration is never blamed.
* An endpoint of a plain base has an address at the host and port of the base, unless it is longer
  than any request may have. One plain segment stands behind the base as it is, with the pairs of
  the parameters behind it. -/
theorem Client.calls_agree {α : Type} (c : Client) (read : Json.Reading α) (endpoint : String)
    (ps : Parameters) (reply : Reply) :
    (∀ u, Url.forRequest (c.url endpoint ps) = .ok u →
      (∃ followed, followed <+: reply.redirects ∧ (c.calls read endpoint ps reply).Send
        (if reply = .direct .refused then none else some (u, followed))) ∧
      (c.calls read endpoint ps reply).Agree c read reply) ∧
    (∀ e, Url.forRequest (c.url endpoint ps) = .error e →
      (c.calls read endpoint ps reply).Send none ∧
      ∃ reason, (c.calls read endpoint ps reply).FailWith (.network reason)) ∧
    (c.calls read endpoint ps reply).Configured ∧
    ∀ b : PlainBase, c.base = b.text →
      ∃ u, Url.ofText? (c.url endpoint ps) = some u ∧ b.Serves u ∧
        (Url.isPlainSegment endpoint.toList → u = b.request endpoint ps.pairs) ∧
        Url.forRequest (c.url endpoint ps) =
          if u.chars.length ≤ Url.longest then .ok u else .error (.unusable u.text) := by
  have hfail : ∀ {e : Url.Fault}, Url.forRequest (c.url endpoint ps) = .error e →
      (c.calls read endpoint ps reply).FailWith (broken endpoint e.message) := by
    intro e he
    rw [calls_of_fault he]
    exact ⟨rfl, rfl, rfl⟩
  refine ⟨fun u hu => ⟨?_, Calls.agree_of_address read hu reply⟩, fun e he => ⟨?_, _, hfail he⟩, ?_,
    fun b hb => ?_⟩
  · obtain ⟨hrefused, hnone⟩ | ⟨hmade, followed, hprefix, hmany⟩ := reply.asked_cases u
    · refine ⟨[], List.nil_prefix, ?_⟩
      rw [calls_of_address hu, if_pos hrefused]
      constructor <;> simp only [Reply.sent, hnone] <;> rfl
    · refine ⟨followed, hprefix, ?_⟩
      rw [calls_of_address hu, if_neg hmade]
      constructor <;> simp only [Reply.sent, hmany] <;> rfl
  · rw [calls_of_fault he]
    exact ⟨rfl, rfl, rfl⟩
  · cases haddress : Url.forRequest (c.url endpoint ps) with
    | ok u => exact (Calls.agree_of_address read haddress reply).configured
    | error e => exact (hfail haddress).configured (by simp [broken])
  · have hc : c = b.client c.libraries c.timeoutMs := by
      rw [PlainBase.client, ← hb]
    rw [hc]
    exact b.forRequest_endpoint c.libraries c.timeoutMs endpoint ps

/-- Not every call is one and the same request: with a long coin none is sent although the backend
would answer it, without a connection none is sent, and a call for a text asks for another form of
the body than one for a document. -/
theorem Client.not_one_request :
    (Reply.direct (.response .letter)).whole? = some .letter ∧
    isSuccess Response.letter.status = true ∧
    (onThisMachine.callText "load" (longCoinParameters 70000)
      (.direct (.response .letter))).sent = [] ∧
    (∃ reason, (onThisMachine.callText "load" (longCoinParameters 70000)
      (.direct (.response .letter))).result = .error (.network reason)) ∧
    (onThisMachine.call "models" .empty (.direct .refused)).sent = [] ∧
    (onThisMachine.call "models" .empty (.direct (.response .letter))).sent ≠
      (onThisMachine.callText "models" .empty (.direct (.response .letter))).sent := by
  have hplain : Url.isPlainSegment "models".toList := by decide
  have hmany : Url.longest ≤ 70000 := by decide
  obtain ⟨e, hlong⟩ := PlainBase.onThisMachine.forRequest_longCoin .plain 20000 hmany
  have hlength : (PlainBase.onThisMachine.request "models" []).chars.length ≤ Url.longest := by
    decide +kernel
  have hmodels : Url.forRequest (onThisMachine.url "models" .empty) =
      .ok (PlainBase.onThisMachine.request "models" []) := by
    rw [onThisMachine, PlainBase.forRequest_url _ _ _ _ hplain]
    exact if_pos hlength
  have hnone : onThisMachine.callText "load" (longCoinParameters 70000)
      (.direct (.response .letter)) = .failed (broken "load" e.message) := by
    rw [callText, onThisMachine, send_of_fault hlong]
    rfl
  refine ⟨rfl, rfl, ?_, ?_, ?_, ?_⟩
  · rw [hnone]
    rfl
  · rw [hnone]
    exact ⟨_, rfl⟩
  · rw [call, send_of_address hmodels]
    rfl
  · rw [call, callText, send_of_address hmodels, send_of_address hmodels]
    intro h
    exact absurd (congrArg (List.map Sent.accept) h) (by decide)

end BacktestDesk
