import BacktestDesk.Proofs.ChartSource
import BacktestDesk.Proofs.ProgramRun

/-!
# BacktestDesk.Proofs.ExecutedRequest

Two ways to the same operation. A request is executed, or it is done by its shortcut, an action of
its own; `Request.Shows` says which view an executed request leads to, told from the shortcut alone.

* `Desk.desk_execute`, `Desk.sent_execute_eq`: both ways end at the same desk and send the same.
* `Desk.after_direct`: so they do in the middle of a run.
* `Desk.result_execute_eq_some_iff`: the view, told from what the shortcut leaves behind.
* `Desk.channel_execute_cases`: a request without a view is one that took a notice.
-/

namespace BacktestDesk

/-- The action that does no more than the operation of a request. -/
def Request.shortcut : Request → Action
  | .run config => .runBacktest config
  | .train config => .train config
  | .load range => .loadRange range
  | .history range => .loadHistory range
  | .models => .listModels

/-- An action with its shortcut in place of a request that is executed. -/
def Action.direct : Action → Action
  | .execute r => r.shortcut
  | a => a

namespace Action.Result

/-- The result of an operation that succeeded. -/
def IsSuccess : Action.Result → Prop
  | .settled s => s = .applied
  | .viewed v => v.isSome
  | .loaded text => text.isSome
  | .listed c => c.isSome
  | .issued _ => True
  | .done => True

theorem isSuccess_iff_of_tells {s : Settlement} {result : Action.Result} (h : result.Tells s) :
    result.IsSuccess ↔ s = .applied := by
  cases result with
  | settled s' =>
    obtain rfl : s' = s := h
    exact Iff.rfl
  | viewed v => exact h
  | loaded text => exact h
  | listed c => exact h
  | issued t => exact iff_of_true trivial h
  | done => exact iff_of_true trivial h

end Action.Result

/-- The view of a request whose shortcut succeeded: the chart or the history that is current now,
the models of the catalogue that is stored now in its order, or the text of the reply. -/
inductive Request.Shows (reply : Reply) (done : Step Action.Result) : Request → View → Prop where
  | run {config : Backtest} {s : Snapshot} (applied : done.result = .settled .applied)
      (current : done.desk.chart.current = some s) : Shows reply done (.run config) (.chart s)
  | train {config : Training} {s : Snapshot} (applied : done.result = .settled .applied)
      (current : done.desk.chart.current = some s) : Shows reply done (.train config) (.chart s)
  | history {range : DayRange} {a : Availability} (applied : done.result = .settled .applied)
      (current : done.desk.history.current = some a) :
      Shows reply done (.history range) (.history a)
  | models {c : Catalogue} (listed : done.result = .listed (some c))
      (stored : done.desk.catalogue = some c) : Shows reply done .models (.models c.models)
  | load {range : DayRange} {x : Response}
      (loaded : done.result = .loaded (some (done.desk.client.textOf x)))
      (arrived : reply.whole? = some x) (success : isSuccess x.status = true) :
      Shows reply done (.load range) (.loaded (done.desk.client.textOf x))

theorem Client.fetchLoad_ok {c : Client} {range : DayRange} {reply : Reply} {text : String}
    (h : (c.fetchLoad range reply).result = .ok text) :
    ∃ x, reply.whole? = some x ∧ isSuccess x.status = true ∧ text = c.textOf x := by
  rw [fetchLoad] at h
  split at h
  · cases h
  rw [callText, Exchange.map_ok_iff] at h
  obtain ⟨x, hsend, hx⟩ := h
  obtain ⟨hwhole, hsuccess⟩ := send_ok hsend
  exact ⟨x, hwhole, hsuccess, (Except.ok.inj hx).symm⟩

/-- A request that draws its ticket itself is not outdated by any other. -/
theorem Client.settlement_ne_stale (c : Client) (r : Request) (reply : Reply) :
    c.settlement r reply ≠ .stale := by
  rw [settlement_eq]
  cases (c.fetch r reply).result <;> simp [Settlement.ofOutcome]

namespace Desk

theorem desk_execute (d : Desk) (r : Request) (reply : Reply) :
    (d.execute r reply).desk = (d.act r.shortcut reply).desk := by
  cases r <;> rfl

theorem sent_execute_eq (d : Desk) (r : Request) (reply : Reply) :
    (d.execute r reply).sent = (d.act r.shortcut reply).sent := by
  cases r <;> rfl

theorem settlement_shortcut (d : Desk) (r : Request) (reply : Reply) :
    d.settlement r.shortcut reply = d.client.settlement r reply := by
  cases r <;> rfl

theorem act_direct (d : Desk) (a : Action) (reply : Reply) :
    (d.act a.direct reply).desk = (d.act a reply).desk := by
  cases a with
  | execute r => exact (desk_execute d r reply).symm
  | _ => rfl

/-- A run reaches the same desk when every request in it is done by its shortcut. -/
theorem after_direct (d : Desk) (turns : List (Action × Reply)) :
    d.after (turns.map fun turn => (turn.1.direct, turn.2)) = d.after turns := by
  induction turns generalizing d with
  | nil => rfl
  | cons turn turns ih =>
    obtain ⟨a, reply⟩ := turn
    rw [List.map_cons, after_cons, after_cons, act_direct, ih]

theorem result_shortcut_ne_stale (d : Desk) (r : Request) (reply : Reply) :
    (d.act r.shortcut reply).result ≠ .settled .stale := by
  intro h
  have htells := result_act_tells d r.shortcut reply
  rw [h, settlement_shortcut] at htells
  exact d.client.settlement_ne_stale r reply htells.symm

theorem result_execute_isSome_iff (d : Desk) (r : Request) (reply : Reply) :
    (d.execute r reply).result.isSome ↔ (d.act r.shortcut reply).result.IsSuccess := by
  have htells := result_act_tells d r.shortcut reply
  rw [settlement_shortcut] at htells
  rw [result_execute_isSome, Action.Result.isSuccess_iff_of_tells htells]

/-- What is shown after a settlement. -/
theorem view_eq_some_iff {α : Type} {s : Settlement} {current : Option α} {f : α → View}
    {v : View} :
    (match s with
      | .applied => current.map f
      | _ => none) = some v ↔ s = .applied ∧ ∃ x, current = some x ∧ f x = v := by
  cases s <;> simp

theorem catalogue_of_listed {d : Desk} {reply : Reply} {c : Catalogue}
    (h : (d.listModels reply).result = some c) :
    (d.listModels reply).desk.catalogue = some c := by
  simp only [listModels_eq] at h ⊢
  rw [h]
  rfl

theorem whole_of_loaded {d : Desk} {range : DayRange} {reply : Reply} {text : String}
    (h : (d.loadRange range reply).result = some text) :
    ∃ x, reply.whole? = some x ∧ isSuccess x.status = true ∧ text = d.client.textOf x := by
  simp only [loadRange_eq] at h
  cases hfetch : (d.client.fetchLoad range reply).result with
  | error e =>
    rw [hfetch] at h
    cases h
  | ok found =>
    rw [hfetch] at h
    cases h
    exact Client.fetchLoad_ok hfetch

theorem client_loadRange (d : Desk) (range : DayRange) (reply : Reply) :
    (d.loadRange range reply).desk.client = d.client := by
  rw [loadRange_eq]

/-- The view that a request leads to is told from what its shortcut leaves behind. -/
theorem result_execute_eq_some_iff (d : Desk) (r : Request) (reply : Reply) (v : View) :
    (d.execute r reply).result = some v ↔ r.Shows reply (d.act r.shortcut reply) v := by
  cases r with
  | run config =>
    refine view_eq_some_iff.trans ⟨?_, ?_⟩
    · rintro ⟨happlied, s, hcurrent, rfl⟩
      exact .run (congrArg Action.Result.settled happlied) hcurrent
    · intro h
      cases h with
      | run hsettled hcurrent =>
        exact ⟨Action.Result.settled.inj hsettled, _, hcurrent, rfl⟩
  | train config =>
    refine view_eq_some_iff.trans ⟨?_, ?_⟩
    · rintro ⟨happlied, s, hcurrent, rfl⟩
      exact .train (congrArg Action.Result.settled happlied) hcurrent
    · intro h
      cases h with
      | train hsettled hcurrent =>
        exact ⟨Action.Result.settled.inj hsettled, _, hcurrent, rfl⟩
  | history range =>
    refine view_eq_some_iff.trans ⟨?_, ?_⟩
    · rintro ⟨happlied, a, hcurrent, rfl⟩
      exact .history (congrArg Action.Result.settled happlied) hcurrent
    · intro h
      cases h with
      | history hsettled hcurrent =>
        exact ⟨Action.Result.settled.inj hsettled, _, hcurrent, rfl⟩
  | models =>
    refine Option.map_eq_some_iff.trans ⟨?_, ?_⟩
    · rintro ⟨c, hlisted, rfl⟩
      exact .models (congrArg Action.Result.listed hlisted) (catalogue_of_listed hlisted)
    · intro h
      cases h with
      | models hlisted hstored => exact ⟨_, Action.Result.listed.inj hlisted, rfl⟩
  | load range =>
    refine Option.map_eq_some_iff.trans ⟨?_, ?_⟩
    · rintro ⟨text, hloaded, rfl⟩
      obtain ⟨x, hwhole, hsuccess, rfl⟩ := whole_of_loaded hloaded
      rw [← client_loadRange d range reply] at hloaded ⊢
      exact .load (congrArg Action.Result.loaded hloaded) hwhole hsuccess
    · intro h
      cases h with
      | load hloaded hwhole hsuccess => exact ⟨_, Action.Result.loaded.inj hloaded, rfl⟩

/-- A request leads to a view and leaves the channel alone, or it takes one notice and has none. -/
theorem channel_execute_cases (d : Desk) (r : Request) (reply : Reply) :
    ((d.execute r reply).result ≠ none ∧ (d.execute r reply).desk.channel = d.channel) ∨
    ((d.execute r reply).result = none ∧
      ∃ n, (d.execute r reply).desk.channel = d.channel.send n) := by
  rw [result_execute_eq, channel_execute, Client.settlement_eq]
  cases (d.client.fetch r reply).result with
  | ok f => exact .inl ⟨by simp [Except.toOption], rfl⟩
  | error e => exact .inr ⟨rfl, e.notice, rfl⟩

theorem result_execute_eq_none_iff {d : Desk} {taken : List Notice}
    (h : d.channel = .board taken) (r : Request) (reply : Reply) :
    (d.execute r reply).result = none ↔
      ∃ n, (d.execute r reply).desk.channel = .board (taken ++ [n]) := by
  rcases channel_execute_cases d r reply with ⟨hresult, hchannel⟩ | ⟨hresult, n, hchannel⟩
  · refine iff_of_false hresult ?_
    rintro ⟨n, hn⟩
    rw [hchannel, h] at hn
    simp at hn
  · exact iff_of_true hresult ⟨n, by rw [hchannel, h]; rfl⟩

/-- An executed request is its shortcut and a view. At every desk, whatever is under way there, and
for every request and reply:

* it leaves the same desk behind, notices included, and sends the same;
* the shortcut is never outdated;
* there is a view exactly when the shortcut succeeded, and it is the view that the shortcut shows;
* there is none exactly when one notice was taken, and otherwise no notice is. -/
theorem execute_is_shortcut_with_view (d : Desk) (r : Request) (reply : Reply) :
    let executed := d.execute r reply
    let shortcut := d.act r.shortcut reply
    (executed.desk = shortcut.desk ∧ executed.sent = shortcut.sent) ∧
    shortcut.result ≠ .settled .stale ∧
    (executed.result.isSome ↔ shortcut.result.IsSuccess) ∧
    (∀ v, executed.result = some v ↔ r.Shows reply shortcut v) ∧
    ((executed.result ≠ none ∧ executed.desk.channel = d.channel) ∨
      (executed.result = none ∧ ∃ n, executed.desk.channel = d.channel.send n)) ∧
    ∀ taken, d.channel = .board taken →
      (executed.result = none ↔ ∃ n, executed.desk.channel = .board (taken ++ [n])) := by
  intro executed shortcut
  exact ⟨⟨desk_execute d r reply, sent_execute_eq d r reply⟩, result_shortcut_ne_stale d r reply,
    result_execute_isSome_iff d r reply, result_execute_eq_some_iff d r reply,
    channel_execute_cases d r reply, fun taken h => result_execute_eq_none_iff h r reply⟩

end Desk
end BacktestDesk
