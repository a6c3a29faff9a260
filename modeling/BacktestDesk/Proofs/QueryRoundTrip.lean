import BacktestDesk.Backend.Client
import BacktestDesk.Proofs.FormRoundTrip
import Mathlib.Data.List.DropRight

/-!
# BacktestDesk.Proofs.QueryRoundTrip

Parameters on their way out: as the query of an address, and behind the base of a client. Nothing
that a key or a value holds can be taken for a separator.

* `Parameters.decode_query`: the query is read as the pairs.
* `Parameters.pairs_list`: a list goes out as its items, one behind the other.
* `Client.base_ofSettings`, `Client.url_parts`: the address in front of the query.
-/

namespace BacktestDesk

namespace Parameters

theorem pairs_append (es fs : List (String × Parameter)) :
    pairs ⟨es ++ fs⟩ = pairs ⟨es⟩ ++ pairs ⟨fs⟩ :=
  List.flatMap_append

theorem pairs_cons (key : String) (value : Parameter) (es : List (String × Parameter)) :
    pairs ⟨(key, value) :: es⟩ = (value.texts.map fun s => (key, s)) ++ pairs ⟨es⟩ :=
  List.flatMap_cons

/-- The items of a list stand together, in their order and each under the key of the list. -/
theorem pairs_list (before : List (String × Parameter)) (key : String) (items : List String)
    (behind : List (String × Parameter)) :
    pairs ⟨before ++ (key, .list items) :: behind⟩ =
      pairs ⟨before⟩ ++ (items.map fun s => (key, s)) ++ pairs ⟨behind⟩ := by
  rw [pairs_append, pairs_cons, Parameter.texts, List.append_assoc]

theorem decode_query (ps : Parameters) : Text.Form.decode ps.query = ps.pairs :=
  Text.Form.decode_encode ps.pairs

/-- The values that the query is read as under a key. -/
def sentUnder (ps : Parameters) (key : String) : List String :=
  ((Text.Form.decode ps.query).filter fun p => p.1 == key).map Prod.snd

theorem sentUnder_eq (ps : Parameters) (key : String) :
    ps.sentUnder key = (ps.pairs.filter fun p => p.1 == key).map Prod.snd := by
  rw [sentUnder, decode_query]

theorem isEncoded_of_mem_query {ps : Parameters} {c : Char} (h : c ∈ ps.query.toList) :
    Text.Form.isEncoded c :=
  Text.Form.isEncoded_of_mem_encode h

theorem query_isEmpty (ps : Parameters) : ps.query.isEmpty = ps.pairs.isEmpty :=
  Text.Form.isEmpty_encode ps.pairs

end Parameters

namespace Client

/-- The base is what stands in front of the slashes at the end of an address. -/
theorem base_ofSettings (libraries : Libraries) (s : Settings) :
    (∃ n, s.baseUrl.toList = (ofSettings libraries s).base.toList ++ List.replicate n '/') ∧
      (ofSettings libraries s).base.toList.getLast? ≠ some '/' := by
  have hbase : (ofSettings libraries s).base.toList = s.baseUrl.toList.rdropWhile (· == '/') := by
    rw [ofSettings, String.toList_ofList]
    rfl
  rw [hbase]
  constructor
  · refine ⟨(s.baseUrl.toList.rtakeWhile (· == '/')).length, ?_⟩
    have hslashes : s.baseUrl.toList.rtakeWhile (· == '/') =
        List.replicate (s.baseUrl.toList.rtakeWhile (· == '/')).length '/' := by
      rw [List.eq_replicate_length]
      intro c hc
      have hslash := List.mem_rtakeWhile_imp (p := (· == '/')) hc
      exact beq_iff_eq.mp hslash
    rw [← hslashes, List.rdropWhile_append_rtakeWhile]
  · intro h
    have hne : s.baseUrl.toList.rdropWhile (· == '/') ≠ [] := by
      rintro hnil
      rw [hnil] at h
      cases h
    have hlast := List.rdropWhile_last_not _ _ hne
    rw [List.getLast?_eq_some_getLast hne, Option.some.injEq] at h
    exact hlast (beq_iff_eq.mpr h)

/-- Base, endpoint and, if anything goes out, the query behind a question mark. -/
theorem url_parts (c : Client) (endpoint : String) (ps : Parameters) :
    c.url endpoint ps =
      c.base ++ "/" ++ endpoint ++ (if ps.pairs = [] then "" else "?" ++ ps.query) := by
  rw [url, ps.query_isEmpty]
  cases hp : ps.pairs with
  | nil => simp
  | cons p rest => simp [String.append_assoc]

end Client

/-- Any parameters, whatever their keys and values hold, come out of their query as they went in.

* The query is read as the pairs, in order; a list gives one pair for each item, side by side and in
  its order, and an empty list gives none.
* Letters and digits of ASCII and `* - . _ + % & =` are all that a query is written with.
* The address is the base of the settings without the slashes at its end, a slash, the endpoint and,
  exactly when there are pairs, a question mark and the query. -/
theorem Parameters.query_lossless (libraries : Libraries) (s : Settings) (endpoint : String)
    (ps : Parameters) :
    Text.Form.decode ps.query = ps.pairs ∧
    (∀ before key items behind, ps.entries = before ++ (key, .list items) :: behind →
      Text.Form.decode ps.query =
        pairs ⟨before⟩ ++ (items.map fun item => (key, item)) ++ pairs ⟨behind⟩) ∧
    (∀ c ∈ ps.query.toList, Text.Form.isEncoded c) ∧
    (∃ n, s.baseUrl.toList =
      (Client.ofSettings libraries s).base.toList ++ List.replicate n '/') ∧
    (Client.ofSettings libraries s).base.toList.getLast? ≠ some '/' ∧
    (Client.ofSettings libraries s).url endpoint ps =
      (Client.ofSettings libraries s).base ++ "/" ++ endpoint ++
        (if ps.pairs = [] then "" else "?" ++ ps.query) := by
  obtain ⟨hslashes, hlast⟩ := Client.base_ofSettings libraries s
  refine ⟨ps.decode_query, ?_, fun c => isEncoded_of_mem_query, hslashes, hlast,
    (Client.ofSettings libraries s).url_parts endpoint ps⟩
  intro before key items behind h
  rw [ps.decode_query, ← pairs_list, ← h]

end BacktestDesk
