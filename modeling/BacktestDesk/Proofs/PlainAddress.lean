import BacktestDesk.Backend.Client
import BacktestDesk.Proofs.FormRoundTrip
import Mathlib.Data.List.DropRight
import Mathlib.Data.List.TakeWhile

/-!
# BacktestDesk.Proofs.PlainAddress

Requests to a plain base address, which is `http://host:port/path` in printable characters. The text
of base, endpoint and query is read part by part, and each part is found as it was written.

* `PlainBase.ofText?_eq`: the address that the text stands for.
* `PlainBase.forRequest_url`: it is that of the request, unless it is longer than `Url.longest`.
* `PlainBase.client_ofSettings`: settings with a plain address give a client of a plain base.
-/

namespace BacktestDesk
namespace Url

open Text

/-! ## Characters -/

theorem notMem_of_forall {p : Char → Bool} {cs : List Char} (h : ∀ c ∈ cs, p c) {x : Char}
    (hx : p x = false) : x ∉ cs := by
  intro hmem
  rw [h x hmem] at hx
  cases hx

theorem toNat_of_isAlphanum {c : Char} (h : c.isAlphanum) : c.toNat < 128 := by
  have hval : c.toNat = c.val.toNat := rfl
  change (decide ('A'.val ≤ c.val ∧ c.val ≤ 'Z'.val) ||
    (decide ('a'.val ≤ c.val) && decide (c.val ≤ 'z'.val)) ||
    (decide ('0'.val ≤ c.val) && decide (c.val ≤ '9'.val))) = true at h
  simp only [Bool.or_eq_true, Bool.and_eq_true, decide_eq_true_eq, UInt32.le_iff_toNat_le] at h
  have hZ : 'Z'.val.toNat = 90 := rfl
  have hz : 'z'.val.toNat = 122 := rfl
  have h9 : '9'.val.toNat = 57 := rfl
  omega

/-- What is checked of the characters of ASCII one by one holds of each in a class of them. -/
theorem forall_class {p : Char → Bool} {q : Char → Prop} (hlt : ∀ {c}, p c → c.toNat < 128)
    (h : ∀ n : Fin 128, p (Char.ofNat n) → q (Char.ofNat n)) {c : Char} (hc : p c) : q c := by
  have hn := h ⟨c.toNat, hlt hc⟩
  rw [Char.ofNat_toNat] at hn
  exact hn hc

/-- The characters of a plain host. -/
def isHostChar (c : Char) : Bool :=
  c.isAlphanum || c == '-' || c == '.' || c == '_'

/-- The characters of a plain host with a port behind it. -/
def isRegionChar (c : Char) : Bool :=
  isHostChar c || c == ':'

/-- The characters of a plain segment of a path. -/
def isSegmentChar (c : Char) : Bool :=
  0x20 < c.toNat && c.toNat ≤ 0x7E && !pathSpecials.contains c && c != '/' && c != '\\'

/-- Whether a path keeps a segment as it is. -/
def isPlainSegment (s : List Char) : Bool :=
  s.all isSegmentChar && !isHere s && !isAbove s

theorem toNat_of_isRegionChar {c : Char} (h : isRegionChar c) : c.toNat < 128 := by
  simp only [isRegionChar, isHostChar, Bool.or_eq_true, beq_iff_eq] at h
  rcases h with (((h | rfl) | rfl) | rfl) | rfl
  · exact toNat_of_isAlphanum h
  all_goals decide

theorem toNat_of_isEncoded {c : Char} (h : Form.isEncoded c) : c.toNat < 128 := by
  simp only [Form.isEncoded, Form.isComponent, Bool.or_eq_true, beq_iff_eq, List.contains_eq_mem,
    decide_eq_true_eq, List.mem_cons, List.not_mem_nil, or_false] at h
  rcases h with ((h | rfl | rfl | rfl | rfl | rfl | rfl) | rfl) | rfl
  · exact toNat_of_isAlphanum h
  all_goals decide

theorem isHostChar_of_isDigit {c : Char} (h : c.isDigit) : isHostChar c := by
  rw [isHostChar, Char.isAlphanum, h, Bool.or_true, Bool.true_or, Bool.true_or, Bool.true_or]

theorem isRegionChar_of_isHostChar {c : Char} (h : isHostChar c) : isRegionChar c := by
  rw [isRegionChar, h, Bool.true_or]

theorem toNat_of_isHostChar {c : Char} (h : isHostChar c) : c.toNat < 128 :=
  toNat_of_isRegionChar (isRegionChar_of_isHostChar h)

theorem isHostChar_toLower {c : Char} (h : isHostChar c) : isHostChar c.toLower :=
  forall_class (q := fun c => isHostChar c.toLower) toNat_of_isHostChar (by decide +kernel) h

/-! ## Paths -/

theorem escape_eq_self {special cs : List Char}
    (h : ∀ c ∈ cs, 0x20 < c.toNat ∧ c.toNat ≤ 0x7E ∧ special.contains c = false) :
    Percent.escape special cs = cs := by
  induction cs with
  | nil => rfl
  | cons c cs ih =>
    rw [List.forall_mem_cons] at h
    obtain ⟨⟨hlo, hhi, hspecial⟩, hcs⟩ := h
    have hlow : ¬ c.toNat ≤ 0x1F := by omega
    have hhigh : ¬ 0x7E < c.toNat := by omega
    have hrest : Percent.escape special cs = cs := ih hcs
    rw [Percent.escape] at hrest ⊢
    rw [List.flatMap_cons, hrest, hspecial, if_neg (by simp [hlow, hhigh]), List.singleton_append]

theorem isPlainSegment_iff {s : List Char} :
    isPlainSegment s ↔ (∀ c ∈ s, isSegmentChar c) ∧ isHere s = false ∧ isAbove s = false := by
  simp [isPlainSegment, and_assoc]

theorem isSegmentChar_iff {c : Char} :
    isSegmentChar c ↔ 0x20 < c.toNat ∧ c.toNat ≤ 0x7E ∧ pathSpecials.contains c = false ∧
      c ≠ '/' ∧ c ≠ '\\' := by
  simp [isSegmentChar, and_assoc]

theorem resolve_plain {done ss : List (List Char)} (h : ∀ s ∈ ss, isPlainSegment s) :
    resolve false done ss = done.reverse ++ ss := by
  induction ss generalizing done with
  | nil => rw [resolve, List.append_nil]
  | cons s ss ih =>
    rw [List.forall_mem_cons] at h
    obtain ⟨-, hhere, habove⟩ := isPlainSegment_iff.mp h.1
    rw [resolve, hhere, habove, if_neg Bool.false_ne_true, if_neg Bool.false_ne_true,
      if_neg Bool.false_ne_true, ih h.2, List.reverse_cons, List.append_assoc,
      List.singleton_append]

/-- The path of segments, each behind a slash. -/
def pathOf (ss : List (List Char)) : List Char :=
  ss.flatMap ('/' :: ·)

theorem pathOf_append (ss ts : List (List Char)) : pathOf (ss ++ ts) = pathOf ss ++ pathOf ts :=
  List.flatMap_append

theorem joinSegments_eq {ss : List (List Char)} (hne : ss ≠ []) : joinSegments ss = pathOf ss := by
  induction ss with
  | nil => exact absurd rfl hne
  | cons s ss ih =>
    cases ss with
    | nil => simp [joinSegments, pathOf]
    | cons t ts =>
      have hrest := ih (List.cons_ne_nil t ts)
      rw [joinSegments] at hrest ⊢
      rw [pathOf, List.flatMap_cons, ← pathOf, ← hrest, List.intercalate_cons_cons,
        List.append_assoc, List.singleton_append]
      rfl

theorem mem_pathOf {ss : List (List Char)} {c : Char} (hc : c ∈ pathOf ss) :
    c = '/' ∨ ∃ s ∈ ss, c ∈ s := by
  obtain ⟨s, hs, hc⟩ := List.mem_flatMap.mp hc
  rcases List.mem_cons.mp hc with hc | hc
  · exact .inl hc
  · exact .inr ⟨s, hs, hc⟩

/-- The scheme of plain addresses. -/
def http : List Char := ['h', 't', 't', 'p']

theorem pathOf_chars {ss : List (List Char)} (h : ∀ s ∈ ss, isPlainSegment s) :
    ∀ c ∈ pathOf ss, 0x20 < c.toNat ∧ c ≠ '\\' ∧ c ≠ '?' ∧ c ≠ '#' := by
  intro c hc
  rcases mem_pathOf hc with rfl | ⟨s, hs, hc⟩
  · decide
  · have hsegment := (isPlainSegment_iff.mp (h s hs)).1 c hc
    obtain ⟨hlo, -, hspecial, -, hback⟩ := isSegmentChar_iff.mp hsegment
    refine ⟨hlo, hback, ?_, ?_⟩
    all_goals
      rintro rfl
      revert hspecial
      decide

/-- The path of plain segments is its own written form. -/
theorem hostPath_plain {ss : List (List Char)} (hne : ss ≠ []) (h : ∀ s ∈ ss, isPlainSegment s) :
    hostPath http (pathOf ss) = pathOf ss := by
  have hchars := pathOf_chars h
  have hslash : (pathOf ss).map (fun c => if divides http c then '/' else c) = pathOf ss := by
    rw [List.map_congr_left, List.map_id]
    intro c hc
    split
    · rename_i hd
      have hnotback := (hchars c hc).2.1
      simp only [divides, Bool.or_eq_true, beq_iff_eq, Bool.and_eq_true, hnotback, and_false,
        or_false] at hd
      exact hd.symm
    · rfl
  have hsplit : split '/' (['/'].intercalate ss) = ss := by
    refine split_intercalate hne fun s hs hmem => ?_
    exact (isSegmentChar_iff.mp ((isPlainSegment_iff.mp (h s hs)).1 '/' hmem)).2.2.2.1 rfl
  have hescape : ss.map (Percent.escape pathSpecials) = ss := by
    rw [List.map_congr_left, List.map_id]
    intro s hs
    refine escape_eq_self fun c hc => ?_
    have hsegment := (isPlainSegment_iff.mp (h s hs)).1 c hc
    obtain ⟨hlo, hhi, hspecial, -, -⟩ := isSegmentChar_iff.mp hsegment
    exact ⟨hlo, hhi, hspecial⟩
  have hhead : pathOf ss = '/' :: ['/'].intercalate ss := (joinSegments_eq hne).symm
  have hfile : isFile http = false := by decide
  have hsegments : segments http (pathOf ss) = ss := by
    rw [segments, hslash, hhead, List.head?_cons, if_pos rfl, List.drop_one, List.tail_cons, hsplit,
      hescape, hfile, resolve_plain h]
    rfl
  have hspecial : isSpecial http = true := by decide
  rw [hostPath, hspecial, Bool.not_true, Bool.and_false, if_neg Bool.false_ne_true, hsegments,
    joinSegments_eq hne]

/-! ## Hosts and ports -/

theorem cutCredentials_of_notMem {cs : List Char} (h : '@' ∉ cs) :
    Authority.cutCredentials cs = (none, cs) := by
  have hnil : cs.reverse.dropWhile (· != '@') = [] := by
    rw [List.dropWhile_eq_nil_iff]
    intro c hc
    rw [bne_iff_ne]
    rintro rfl
    exact h (List.mem_reverse.mp hc)
  rw [Authority.cutCredentials, hnil]

theorem cutPort_append {host : List Char} (rest : List Char) (h : ∀ c ∈ host, isHostChar c) :
    Authority.cutPort false (host ++ rest) =
      (host ++ (Authority.cutPort false rest).1, (Authority.cutPort false rest).2) := by
  induction host with
  | nil => rfl
  | cons c cs ih =>
    rw [List.forall_mem_cons] at h
    have hne : ∀ {x : Char}, isHostChar x = false → c ≠ x := by
      rintro x hx rfl
      rw [h.1] at hx
      cases hx
    have hcolon : c ≠ ':' := hne (by decide)
    have hopen : c ≠ '[' := hne (by decide)
    have hclose : c ≠ ']' := hne (by decide)
    rw [List.cons_append, Authority.cutPort]
    simp only [hcolon, hopen, hclose, decide_false, Bool.false_and, Bool.false_eq_true, if_false,
      ih h.2, List.cons_append]

theorem port?_toDigits {n : Nat} (h : n ≤ 65535) :
    Authority.port? http (Nat.toDigits 10 n) = some (if n = 80 then none else some n, []) := by
  have hdigits : (Nat.toDigits 10 n).takeWhile Char.isDigit = Nat.toDigits 10 n := by
    rw [List.takeWhile_eq_self_iff]
    exact fun c hc => Nat.isDigit_of_mem_toDigits (by decide) (by decide) hc
  have hvalue : Numeral.ofDigits (Nat.toDigits 10 n) = n := Nat.ofDigitChars_ten_toDigits
  have hne : (Nat.toDigits 10 n).isEmpty = false := by
    rw [List.isEmpty_eq_false_iff]
    exact Nat.toDigits_ne_nil
  have hport : impliedPort? http = some 80 := by decide
  have h80 : (some 80 = some n) = (n = 80) := by
    rw [Option.some.injEq]
    exact propext eq_comm
  simp only [Authority.port?, hdigits, hvalue, List.drop_length, List.isEmpty_nil, Bool.true_or, h,
    decide_true, Bool.and_self, if_true, hne, Bool.false_or, decide_eq_true_eq, hport, h80]

theorem ascii?_plain {host : List Char} (h : ∀ c ∈ host, isHostChar c)
    (hplain : Host.Name.isPlain host) :
    Host.Name.ascii? host = some (host.map Char.toLower) := by
  have hforbidden : host.any Host.Name.isForbidden = false := by
    rw [List.any_eq_false]
    intro c hc
    exact forall_class (q := fun c => ¬ Host.Name.isForbidden c) toNat_of_isHostChar
      (by decide +kernel) (h c hc)
  rw [Host.Name.ascii?, if_pos hplain, hforbidden, if_neg Bool.false_ne_true]

theorem host_ofText?_plain {host : List Char} (h : ∀ c ∈ host, isHostChar c)
    (hplain : Host.Name.isPlain host) :
    Host.ofText? host = Host.ofAscii? (host.map Char.toLower) := by
  have hpercent : '%' ∉ host := notMem_of_forall h (by decide)
  rw [Host.ofText?, Percent.decode_of_notMem hpercent, Utf8.decode?_encodeChars]
  · simp only [ascii?_plain h hplain]
  · rintro cs rfl
    exact absurd (h '[' List.mem_cons_self) (by decide)

theorem isHostChar_of_mem_ipv4 {a : Host.Ipv4} {c : Char} (h : c ∈ a.text) : isHostChar c := by
  rcases mem_intercalate h with rfl | ⟨part, hpart, hc⟩
  · decide
  · obtain ⟨n, -, rfl⟩ := List.mem_map.mp hpart
    exact isHostChar_of_isDigit (Nat.isDigit_of_mem_toDigits (by decide) (by decide) hc)

theorem isHostChar_of_mem_text {name : List Char} {host : Host}
    (hname : ∀ c ∈ name, isHostChar c) (h : Host.ofAscii? name = some host) {c : Char}
    (hc : c ∈ host.text) : isHostChar c := by
  rw [Host.ofAscii?] at h
  split at h
  · cases h
  split at h
  · obtain ⟨a, -, rfl⟩ := Option.map_eq_some_iff.mp h
    exact isHostChar_of_mem_ipv4 hc
  · cases h
    exact hname c hc

/-! ## Parts of an address -/

theorem dropWhile_of_visible {front : List Char} (hne : front ≠ [])
    (h : ∀ c ∈ front, 0x20 < c.toNat) (rest : List Char) :
    (front ++ rest).dropWhile (fun c => decide (c.toNat ≤ 0x20)) = front ++ rest := by
  cases front with
  | nil => exact absurd rfl hne
  | cons c cs =>
    have hc : 0x20 < c.toNat := h c List.mem_cons_self
    rw [List.cons_append, List.dropWhile_cons_of_neg]
    rw [decide_eq_true_eq]
    omega

theorem filter_of_visible {cs : List Char} (h : ∀ c ∈ cs, 0x20 < c.toNat) :
    cs.filter (fun c => c != '\t' && c != '\n' && c != '\r') = cs := by
  rw [List.filter_eq_self]
  intro c hc
  have hvisible := h c hc
  simp only [Bool.and_eq_true, bne_iff_ne]
  refine ⟨⟨?_, ?_⟩, ?_⟩
  all_goals
    rintro rfl
    revert hvisible
    decide

theorem dropWhile_append_of_kept {p : Char → Bool} (xs : List Char) {ys : List Char}
    (h : ys.dropWhile p = ys) : (xs ++ ys).dropWhile p = xs.dropWhile p ++ ys := by
  rw [List.dropWhile_append, h]
  split
  · rename_i hnil
    rw [List.isEmpty_iff.mp hnil, List.nil_append]
  · rfl

/-- A visible front of an address stays, and what is behind it is cleaned at its end only. -/
theorem clean_append {front : List Char} (hne : front ≠ []) (h : ∀ c ∈ front, 0x20 < c.toNat)
    (rest : List Char) :
    clean (front ++ rest) =
      front ++ (rest.reverse.dropWhile fun c => decide (c.toNat ≤ 0x20)).reverse.filter fun c =>
        c != '\t' && c != '\n' && c != '\r' := by
  have hreverse : ∀ c ∈ front.reverse, 0x20 < c.toNat := fun c hc => h c (List.mem_reverse.mp hc)
  have hlast : front.reverse.dropWhile (fun c => decide (c.toNat ≤ 0x20)) = front.reverse := by
    have hkept := dropWhile_of_visible (List.reverse_ne_nil_iff.mpr hne) hreverse []
    rwa [List.append_nil] at hkept
  simp only [clean]
  rw [dropWhile_of_visible hne h, List.reverse_append, dropWhile_append_of_kept _ hlast,
    List.reverse_append, List.reverse_reverse, List.filter_append, filter_of_visible h]

theorem clean_of_visible {cs : List Char} (h : ∀ c ∈ cs, 0x20 < c.toNat) : clean cs = cs := by
  cases cs with
  | nil => rfl
  | cons c cs =>
    have hclean := clean_append (List.cons_ne_nil c cs) h []
    rwa [List.append_nil, List.reverse_nil, List.dropWhile_nil, List.reverse_nil, List.filter_nil,
      List.append_nil] at hclean

theorem cut_of_notMem {c : Char} {cs : List Char} (h : c ∉ cs) : cut c cs = (cs, none) := by
  have hnil : cs.dropWhile (· != c) = [] := by
    rw [List.dropWhile_eq_nil_iff]
    intro x hx
    rw [bne_iff_ne]
    rintro rfl
    exact h hx
  rw [cut, hnil]

theorem cut_append_cons {c : Char} {cs : List Char} (rest : List Char) (h : c ∉ cs) :
    cut c (cs ++ c :: rest) = (cs, some rest) := by
  rw [cut, dropWhile_append_cons rest h, takeWhile_append_cons rest h]

/-- A query behind its question mark. -/
def queryChars : Option (List Char) → List Char
  | none => []
  | some q => '?' :: q

theorem targetChars_eq (u : Url) : u.targetChars = u.path ++ queryChars u.query := by
  rw [targetChars]
  cases u.query <;> rfl

theorem tail_ofText {u : Url} (hask : '?' ∉ u.path) (hpath : '#' ∉ u.path)
    (hquery : ∀ q, u.query = some q → '#' ∉ q) :
    Tail.ofText u.targetChars = ⟨u.path, u.query, none⟩ := by
  rw [targetChars_eq]
  cases hq : u.query with
  | none =>
    rw [queryChars, List.append_nil, Tail.ofText, cut_of_notMem hpath]
    simp only [cut_of_notMem hask]
  | some q =>
    have hhash : '#' ∉ u.path ++ '?' :: q := by
      rw [List.mem_append, List.mem_cons, not_or, not_or]
      exact ⟨hpath, by decide, hquery q hq⟩
    rw [queryChars, Tail.ofText, cut_of_notMem hhash]
    simp only [cut_append_cons q hask]

end Url

/-! ## Plain bases -/

open Url

/-- An address `http://host:port/path`: a host in letters, digits and marks, a port that may be
missing, and segments that a path keeps as they are. -/
structure PlainBase where
  host : List Char
  address : Host
  port : Option Nat
  segments : List (List Char)
  host_chars : ∀ c ∈ host, isHostChar c
  host_plain : Host.Name.isPlain host
  host_address : Host.ofAscii? (host.map Char.toLower) = some address
  port_le : ∀ n, port = some n → n ≤ 65535
  segments_plain : ∀ s ∈ segments, isPlainSegment s

namespace PlainBase

def portChars : Option Nat → List Char
  | none => []
  | some n => ':' :: Nat.toDigits 10 n

/-- Host and port as they stand in the base. -/
def region (b : PlainBase) : List Char :=
  b.host ++ portChars b.port

def chars (b : PlainBase) : List Char :=
  http ++ ':' :: '/' :: '/' :: (b.region ++ pathOf b.segments)

def text (b : PlainBase) : String :=
  String.ofList b.chars

/-- The port that the scheme does not imply. -/
def shownPort : Option Nat → Option Nat
  | none => none
  | some n => if n = 80 then none else some n

/-- The address of a request: base, endpoint, and the encoded pairs if there are any. -/
def request (b : PlainBase) (endpoint : String) (pairs : List (String × String)) : Url where
  scheme := http
  authority := some ⟨.empty, b.address, shownPort b.port⟩
  path := pathOf b.segments ++ '/' :: endpoint.toList
  query := if pairs.isEmpty then none else some (Text.Form.encode pairs).toList
  fragment := none

theorem isRegionChar_of_mem_port {port : Option Nat} {c : Char} (hc : c ∈ portChars port) :
    isRegionChar c := by
  cases port with
  | none => exact absurd hc List.not_mem_nil
  | some n =>
    rw [portChars, List.mem_cons] at hc
    rcases hc with rfl | hc
    · decide
    · refine isRegionChar_of_isHostChar (isHostChar_of_isDigit ?_)
      exact Nat.isDigit_of_mem_toDigits (by decide) (by decide) hc

theorem isRegionChar_of_mem (b : PlainBase) : ∀ c ∈ b.region, isRegionChar c := by
  intro c hc
  rw [region, List.mem_append] at hc
  rcases hc with hc | hc
  · exact isRegionChar_of_isHostChar (b.host_chars c hc)
  · exact isRegionChar_of_mem_port hc

theorem port?_eq {port : Option Nat} (h : ∀ n, port = some n → n ≤ 65535) :
    Authority.port? http ((Authority.cutPort false (portChars port)).2.getD []) =
      some (shownPort port, []) := by
  cases port with
  | none => rfl
  | some n => exact port?_toDigits (h n rfl)

theorem cutPort_fst (port : Option Nat) : (Authority.cutPort false (portChars port)).1 = [] := by
  cases port <;> rfl

theorem host_ne_nil (b : PlainBase) : b.host ≠ [] := by
  intro h
  have haddress := b.host_address
  rw [h] at haddress
  cases haddress

theorem host?_eq (b : PlainBase) (isAlone : Bool) :
    Authority.host? http isAlone b.host = some b.address := by
  have hspecial : isSpecial http = true := by decide
  rw [Authority.host?, List.isEmpty_eq_false_iff.mpr b.host_ne_nil, if_neg Bool.false_ne_true,
    hspecial, if_pos rfl, host_ofText?_plain b.host_chars b.host_plain, b.host_address]

theorem ofText?_region (b : PlainBase) (isLast : Bool) :
    Authority.ofText? http isLast b.region =
      some (⟨.empty, b.address, shownPort b.port⟩, []) := by
  have hat : '@' ∉ b.region := notMem_of_forall b.isRegionChar_of_mem (by decide)
  rw [Authority.ofText?, cutCredentials_of_notMem hat]
  simp only [region, cutPort_append _ b.host_chars, cutPort_fst, List.append_nil, Option.map_none,
    Option.getD_none, reduceCtorEq, decide_false, Bool.false_and, Bool.false_eq_true, if_false,
    b.host?_eq, port?_eq b.port_le]

/-! ## The address of a request -/

/-- The text of a request's address, as it is put together. -/
def requestChars (b : PlainBase) (endpoint : String) (pairs : List (String × String)) : List Char :=
  b.chars ++ '/' :: endpoint.toList ++ queryChars (b.request endpoint pairs).query

def client (b : PlainBase) (libraries : Libraries) (timeoutMs : Nat) : Client :=
  ⟨libraries, b.text, timeoutMs⟩

section

variable (b : PlainBase) (libraries : Libraries) (timeoutMs : Nat)

theorem url_eq (endpoint : String) (ps : Parameters) :
    ((b.client libraries timeoutMs).url endpoint ps).toList =
      b.requestChars endpoint ps.pairs := by
  have hslash : "/".toList = ['/'] := rfl
  have hask : "?".toList = ['?'] := rfl
  rw [Client.url, client, requestChars, request, Parameters.query, Text.Form.isEmpty_encode]
  cases ps.pairs.isEmpty with
  | true =>
    simp only [if_true, String.toList_append, hslash, text, String.toList_ofList, queryChars,
      List.append_assoc, List.singleton_append, List.append_nil]
  | false =>
    simp only [Bool.false_eq_true, if_false, String.toList_append, hslash, hask, text,
      String.toList_ofList, queryChars, List.append_assoc, List.singleton_append]

end

variable {endpoint : String}

theorem path_eq (b : PlainBase) (endpoint : String) (pairs : List (String × String)) :
    (b.request endpoint pairs).path = pathOf (b.segments ++ [endpoint.toList]) := by
  rw [request, pathOf_append]
  simp [pathOf]

theorem segments_append_plain (b : PlainBase) (he : isPlainSegment endpoint.toList) :
    ∀ s ∈ b.segments ++ [endpoint.toList], isPlainSegment s := by
  intro s hs
  rw [List.mem_append, List.mem_singleton] at hs
  rcases hs with hs | rfl
  · exact b.segments_plain s hs
  · exact he

theorem path_chars (b : PlainBase) (he : isPlainSegment endpoint.toList)
    (pairs : List (String × String)) :
    ∀ c ∈ (b.request endpoint pairs).path, 0x20 < c.toNat ∧ c ≠ '\\' ∧ c ≠ '?' ∧ c ≠ '#' := by
  rw [path_eq]
  exact pathOf_chars (b.segments_append_plain he)

/-- A query is the encoded pairs, or none. -/
theorem query_chars (b : PlainBase) (endpoint : String) (pairs : List (String × String)) :
    ∀ q, (b.request endpoint pairs).query = some q → ∀ c ∈ q, Text.Form.isEncoded c := by
  intro q hq c hc
  rw [request] at hq
  split at hq
  · cases hq
  · cases hq
    exact Text.Form.isEncoded_of_mem_encode hc

/-- The text behind the scheme and its colon. -/
theorem requestChars_eq (b : PlainBase) (endpoint : String) (pairs : List (String × String)) :
    b.requestChars endpoint pairs = http ++ ':' :: '/' :: '/' ::
      (b.region ++ (b.request endpoint pairs).targetChars) := by
  simp only [requestChars, targetChars_eq, chars, request, List.append_assoc, List.cons_append]

theorem toNat_of_mem (b : PlainBase) (he : isPlainSegment endpoint.toList)
    (pairs : List (String × String)) : ∀ c ∈ b.requestChars endpoint pairs, 0x20 < c.toNat := by
  intro c hc
  rw [requestChars_eq, List.mem_append, List.mem_cons, List.mem_cons, List.mem_cons,
    List.mem_append, targetChars_eq, List.mem_append] at hc
  rcases hc with hc | rfl | rfl | rfl | hc | hc | hc
  · have hhttp : http.all (fun c => decide (0x20 < c.toNat)) = true := by decide
    exact of_decide_eq_true (List.all_eq_true.mp hhttp c hc)
  · decide
  · decide
  · decide
  · exact forall_class (q := fun c => 0x20 < c.toNat) toNat_of_isRegionChar (by decide +kernel)
      (b.isRegionChar_of_mem c hc)
  · exact (b.path_chars he pairs c hc).1
  · cases hq : (b.request endpoint pairs).query with
    | none => rw [hq] at hc; exact absurd hc List.not_mem_nil
    | some q =>
      rw [hq, queryChars, List.mem_cons] at hc
      rcases hc with rfl | hc
      · decide
      · exact forall_class (q := fun c => 0x20 < c.toNat) toNat_of_isEncoded (by decide +kernel)
          (b.query_chars endpoint pairs q hq c hc)

theorem takeWhile_region (b : PlainBase) (rest : List Char) :
    (b.region ++ '/' :: rest).takeWhile (!endsAuthority http ·) = b.region := by
  rw [List.takeWhile_append_of_pos, List.takeWhile_cons_of_neg (by decide), List.append_nil]
  intro c hc
  exact forall_class (q := fun c => !endsAuthority http c) toNat_of_isRegionChar
    (by decide +kernel) (b.isRegionChar_of_mem c hc)

theorem dropWhile_region (b : PlainBase) (rest : List Char) :
    (b.region ++ rest).dropWhile isSlash = b.region ++ rest := by
  rw [region]
  cases hh : b.host with
  | nil => exact absurd hh b.host_ne_nil
  | cons c cs =>
    have hc : isHostChar c := b.host_chars c (hh ▸ List.mem_cons_self)
    rw [List.cons_append, List.cons_append, List.dropWhile_cons_of_neg]
    exact forall_class (q := fun c => ¬ isSlash c) toNat_of_isHostChar (by decide +kernel) hc

theorem escape_query (b : PlainBase) (endpoint : String) (pairs : List (String × String)) :
    (b.request endpoint pairs).query.map (Text.Percent.escape (querySpecials http)) =
      (b.request endpoint pairs).query := by
  cases hq : (b.request endpoint pairs).query with
  | none => rfl
  | some q =>
    rw [Option.map_some, escape_eq_self]
    intro c hc
    exact forall_class (q := fun c => 0x20 < c.toNat ∧ c.toNat ≤ 0x7E ∧
      (querySpecials http).contains c = false) toNat_of_isEncoded (by decide +kernel)
      (b.query_chars endpoint pairs q hq c hc)

/-- The text behind the two slashes gives the parts of the request. -/
theorem ofAuthority?_eq (b : PlainBase) (he : isPlainSegment endpoint.toList)
    (pairs : List (String × String)) :
    ofAuthority? http (b.region ++ (b.request endpoint pairs).targetChars) =
      some (b.request endpoint pairs) := by
  have hpath := b.path_chars he pairs
  have hask : '?' ∉ (b.request endpoint pairs).path := fun h => (hpath _ h).2.2.1 rfl
  have hhash : '#' ∉ (b.request endpoint pairs).path := fun h => (hpath _ h).2.2.2 rfl
  have hquery : ∀ q, (b.request endpoint pairs).query = some q → '#' ∉ q := fun q hq =>
    notMem_of_forall (b.query_chars endpoint pairs q hq) (by decide)
  have hne : b.segments ++ [endpoint.toList] ≠ [] :=
    List.append_ne_nil_of_right_ne_nil _ (List.cons_ne_nil _ _)
  have hwritten : hostPath http (b.request endpoint pairs).path =
      (b.request endpoint pairs).path := by
    rw [path_eq]
    exact hostPath_plain hne (b.segments_append_plain he)
  have hregion : (b.region ++ (b.request endpoint pairs).targetChars).takeWhile
      (!endsAuthority http ·) = b.region := by
    rw [targetChars_eq, path_eq, ← joinSegments_eq hne, joinSegments, List.cons_append]
    exact b.takeWhile_region _
  simp only [ofAuthority?, hregion, List.drop_left, b.ofText?_region, List.nil_append,
    tail_ofText hask hhash hquery, Tail.url, hwritten, escape_query, Option.map_none]
  rfl

theorem ofText?_eq (b : PlainBase) (he : isPlainSegment endpoint.toList)
    (pairs : List (String × String)) {s : String}
    (hs : s.toList = b.requestChars endpoint pairs) :
    Url.ofText? s = some (b.request endpoint pairs) := by
  have hscheme : ∀ rest, scheme? (http ++ ':' :: rest) = some (http, rest) := fun rest => rfl
  have hfile : isFile http = false := by decide
  have hspecial : isSpecial http = true := by decide
  have hslashes : ('/' :: '/' :: (b.region ++ (b.request endpoint pairs).targetChars)).dropWhile
      isSlash = b.region ++ (b.request endpoint pairs).targetChars := by
    rw [List.dropWhile_cons_of_pos (by decide), List.dropWhile_cons_of_pos (by decide)]
    exact b.dropWhile_region _
  rw [Url.ofText?, hs, clean_of_visible (b.toNat_of_mem he pairs), requestChars_eq, hscheme]
  simp only [hfile, hspecial, Bool.false_eq_true, if_false, if_true, hslashes,
    b.ofAuthority?_eq he pairs]

theorem hostChars_eq (b : PlainBase) (endpoint : String) (pairs : List (String × String)) :
    (b.request endpoint pairs).hostChars =
      '/' :: '/' :: (b.address.text ++ portChars (shownPort b.port)) := by
  simp only [hostChars, request, Authority.text, Authority.hostAndPort]
  cases shownPort b.port <;> rfl

theorem hostChars_sendable (b : PlainBase) (endpoint : String) (pairs : List (String × String)) :
    (b.request endpoint pairs).hostChars.any unsendable.contains = false := by
  have hregion : ∀ {c}, isRegionChar c → ¬ unsendable.contains c := fun hc =>
    forall_class (q := fun c => ¬ unsendable.contains c) toNat_of_isRegionChar
      (by decide +kernel) hc
  have hname : ∀ c ∈ b.host.map Char.toLower, isHostChar c := by
    rw [List.forall_mem_map]
    exact fun c hc => isHostChar_toLower (b.host_chars c hc)
  rw [hostChars_eq, List.any_eq_false]
  intro c hc
  rw [List.mem_cons, List.mem_cons, List.mem_append] at hc
  rcases hc with rfl | rfl | hc | hc
  · decide
  · decide
  · exact hregion (isRegionChar_of_isHostChar (isHostChar_of_mem_text hname b.host_address hc))
  · exact hregion (isRegionChar_of_mem_port hc)

theorem isUsable_eq (b : PlainBase) (endpoint : String) (pairs : List (String × String)) :
    (b.request endpoint pairs).isUsable =
      decide ((b.request endpoint pairs).chars.length ≤ longest) := by
  have hscheme : requestSchemes.contains http = true := by decide
  rw [isUsable, hostChars_sendable]
  simp only [request, hscheme, Bool.not_false, Bool.and_self, Bool.true_and]

/-- The address of a request is that of base, endpoint and pairs, and is refused if too long. -/
theorem forRequest_url (b : PlainBase) (libraries : Libraries) (timeoutMs : Nat) (ps : Parameters)
    (he : isPlainSegment endpoint.toList) :
    Url.forRequest ((b.client libraries timeoutMs).url endpoint ps) =
      if (b.request endpoint ps.pairs).chars.length ≤ longest then .ok (b.request endpoint ps.pairs)
      else .error (.unusable (b.request endpoint ps.pairs).text) := by
  have hsame : (b.request endpoint ps.pairs).withoutCredentials = b.request endpoint ps.pairs := rfl
  simp only [forRequest, b.ofText?_eq he ps.pairs (b.url_eq libraries timeoutMs endpoint ps),
    hsame, isUsable_eq, decide_eq_true_eq]

/-- An address is longer than each value of its pairs. -/
theorem length_lt_request (b : PlainBase) (endpoint : String) {pairs : List (String × String)}
    {p : String × String} (h : p ∈ pairs) :
    p.2.toList.length < (b.request endpoint pairs).chars.length := by
  have hquery : (b.request endpoint pairs).query = some (Text.Form.encode pairs).toList := by
    rw [request, if_neg]
    cases pairs with
    | nil => exact absurd h List.not_mem_nil
    | cons q qs => exact Bool.false_ne_true
  have hvalue := Text.Form.length_le_encode h
  simp only [Url.chars, targetChars_eq, hquery, queryChars, List.length_append, List.length_cons]
  omega

/-! ## Clients of a base -/

/-- The base without empty segments at its end. -/
def trimmed (b : PlainBase) : PlainBase :=
  { b with
    segments := b.segments.rdropWhile List.isEmpty
    segments_plain := fun s hs => b.segments_plain s ((List.rdropWhile_prefix _ _).mem hs) }

theorem rdropWhile_append_of_ne {cs ds : List Char} (hds : ds ≠ []) (h : '/' ∉ ds) :
    (cs ++ ds).rdropWhile (· == '/') = cs ++ ds := by
  rw [List.rdropWhile_eq_self_iff]
  intro hne
  rw [List.getLast_append_of_ne_nil hne hds, beq_iff_eq]
  intro hlast
  exact h (hlast ▸ List.getLast_mem hds)

theorem rdropWhile_pathOf {front : List Char} {ss : List (List Char)}
    (hfront : front.rdropWhile (· == '/') = front) (h : ∀ s ∈ ss, isPlainSegment s) :
    (front ++ pathOf ss).rdropWhile (· == '/') = front ++ pathOf (ss.rdropWhile List.isEmpty) := by
  induction ss using List.reverseRecOn with
  | nil =>
    have hnil : pathOf [] = [] := rfl
    rw [List.rdropWhile_nil, hnil, List.append_nil, hfront]
  | append_singleton ss s ih =>
    rw [List.forall_mem_append, List.forall_mem_singleton] at h
    have hone : pathOf [s] = '/' :: s := by simp [pathOf]
    rw [pathOf_append, hone]
    cases s with
    | nil =>
      rw [← List.append_assoc, List.rdropWhile_concat_pos _ _ _ (by decide), ih h.1,
        List.rdropWhile_concat_pos _ _ _ rfl]
    | cons c cs =>
      have hslash : '/' ∉ c :: cs := fun hmem =>
        (isSegmentChar_iff.mp ((isPlainSegment_iff.mp h.2).1 '/' hmem)).2.2.2.1 rfl
      have hsplit : front ++ (pathOf ss ++ '/' :: c :: cs) =
          (front ++ pathOf ss ++ ['/']) ++ c :: cs := by simp
      rw [List.rdropWhile_concat_neg _ _ _ Bool.false_ne_true, pathOf_append, hone, hsplit,
        rdropWhile_append_of_ne (List.cons_ne_nil c cs) hslash]

/-- Settings with a plain address give a client of a plain base. -/
theorem client_ofSettings (b : PlainBase) (libraries : Libraries) (timeoutMs : Nat) :
    Client.ofSettings libraries ⟨b.text, timeoutMs⟩ = b.trimmed.client libraries timeoutMs := by
  have hslash : '/' ∉ b.region := notMem_of_forall b.isRegionChar_of_mem (by decide)
  have hregion : b.region ≠ [] := List.append_ne_nil_of_left_ne_nil b.host_ne_nil _
  have hfront : (http ++ [':', '/', '/'] ++ b.region).rdropWhile (· == '/') =
      http ++ [':', '/', '/'] ++ b.region := rdropWhile_append_of_ne hregion hslash
  have hchars : ∀ b' : PlainBase, b'.chars =
      http ++ [':', '/', '/'] ++ b'.region ++ pathOf b'.segments := by
    intro b'
    simp [chars]
  have htrim : b.chars.rdropWhile (· == '/') = b.trimmed.chars := by
    rw [hchars, hchars]
    exact rdropWhile_pathOf hfront b.segments_plain
  rw [Client.ofSettings, client, text, text, String.toList_ofList, ← htrim]
  rfl

end PlainBase
end BacktestDesk
