/-
# The limit of a head

The head of a response may have as many lines as it likes, and each may be as long as the buffer; a
request sets a limit for all of them together.  What counts is the status line and the lines of
header fields, each with what ends it.  The empty line behind them does not count, and what follows
it is not looked at.

The limit is checked line by line, on what is left of it, and here it is shown to be a limit on the
sum: `takeFields_of_block` has the case in which the fields stay within it, `takeFields_tooLong` the
other.  `takeHead_limit` says so of whole responses, which are described by their lines
(`IsTextLine`) and the headers that these spell (`Spells`).
-/
import Mathlib.Data.List.Forall2
import UrlTransfer.Proofs.Http.StatusLine
import UrlTransfer.Proofs.Http.Writing

namespace UrlTransfer

namespace Http

variable {capacity limit : Nat} {text : String} {line rest : Bytes}

/-! ## 1. Lines of text -/

/-- The line of a text: a line feed ends it, alone or behind a carriage return, and there is no
other in it. -/
inductive IsTextLine (text : String) : Bytes → Prop where
  | crlf (whole : Bytes.lf ∉ Bytes.ofString text) : IsTextLine text (textLine text)
  | lf (whole : Bytes.lf ∉ Bytes.ofString text) (bare : (Bytes.ofString text).getLast? ≠ some 13) :
      IsTextLine text (Bytes.ofString text ++ [Bytes.lf])

/-- **These are the lines that are read as the text**, and no others. -/
theorem isTextLine_iff : IsTextLine text line ↔ IsLine line ∧ lineText? line = some text := by
  constructor
  · intro h
    cases h with
    | crlf whole => exact ⟨isLine_of_noFeed whole, lineText?_textLine text⟩
    | lf whole bare =>
      refine ⟨⟨_, rfl, whole⟩, ?_⟩
      unfold lineText?
      dsimp only
      rw [List.dropLast_concat, if_neg bare]
      exact Utf8.decode?_ofString text
  · rintro ⟨⟨content, rfl, hfeed⟩, htext⟩
    unfold lineText? at htext
    dsimp only at htext
    rw [List.dropLast_concat] at htext
    split at htext
    · next hreturn =>
      obtain ⟨front, rfl⟩ := List.getLast?_eq_some_iff.1 hreturn
      rw [List.dropLast_concat] at htext
      rw [Utf8.decode?_eq_some_iff.1 htext] at hfeed ⊢
      rw [List.append_assoc]
      exact .crlf fun hin => hfeed (List.mem_append_left _ hin)
    · next hbare =>
      rw [Utf8.decode?_eq_some_iff.1 htext] at hfeed hbare ⊢
      exact .lf hfeed hbare

/-! ## 2. Headers -/

/-- What stands before and behind the first colon; without a colon that is all, and nothing. -/
inductive Parts : List Char → List Char → List Char → Prop where
  | colon {before behind : List Char} : ':' ∉ before →
      Parts (before ++ ':' :: behind) before behind
  | bare {cs : List Char} : ':' ∉ cs → Parts cs cs []

theorem exists_parts (cs : List Char) : ∃ before behind, Parts cs before behind := by
  by_cases hcolon : ':' ∈ cs
  · obtain ⟨before, behind, rfl, hbefore⟩ := List.eq_append_cons_of_mem hcolon
    exact ⟨before, behind, .colon hbefore⟩
  · exact ⟨cs, [], .bare hcolon⟩

theorem splitOnce_parts {before behind : List Char} (h : Parts text.toList before behind) :
    (Text.splitOnce ':' text).getD (text, "") = (String.ofList before, String.ofList behind) := by
  generalize hcs : text.toList = cs at h
  cases h with
  | colon hcolon =>
    have htext : text = String.ofList before ++ ":" ++ String.ofList behind := by
      rw [← String.toList_inj, hcs]
      simp
    rw [htext, splitOnce_colon (by
      rintro c hc rfl
      exact hcolon (by simpa using hc))]
    rfl
  | bare hcolon =>
    have hnone : text.toList.dropWhile (· ≠ ':') = [] := by
      rw [hcs, ← List.append_nil before, List.dropWhile_append_of_pos]
      · rfl
      · rintro c hc
        rw [decide_eq_true_eq]
        rintro rfl
        exact hcolon hc
    have hsplit : Text.splitOnce ':' text = none := by
      unfold Text.splitOnce
      dsimp only
      rw [hnone]
    rw [hsplit, ← hcs]
    simp

/-- A line spells a header: a name in front of the first colon, and a value behind it, both without
the blanks around them. -/
def Spells (text : String) (header : HeaderName × HeaderValue) : Prop :=
  ∃ before behind, Parts text.toList before behind ∧
    HeaderName.parse? (String.ofList (Text.trim before)) = some header.1 ∧
    HeaderValue.ofBytes? (Bytes.ofString (String.ofList (Text.trim behind))) = some header.2

theorem parseHeader_eq_ok {name value : String} {header : HeaderName × HeaderValue} :
    parseHeader name value = .ok header ↔ HeaderName.parse? name = some header.1 ∧
      HeaderValue.ofBytes? (Bytes.ofString value) = some header.2 := by
  unfold parseHeader
  constructor
  · intro h
    split at h
    · next hname hvalue => cases h; exact ⟨hname, hvalue⟩
    · cases h
    · cases h
  · rintro ⟨hname, hvalue⟩
    rw [hname, hvalue]

/-- **These are the headers that are read from a line.** -/
theorem spells_iff {header : HeaderName × HeaderValue} :
    Spells text header ↔ parseLine text = .ok header := by
  have hline {before behind : List Char} (h : Parts text.toList before behind) :
      parseLine text = parseHeader (String.ofList (Text.trim before))
        (String.ofList (Text.trim behind)) := by
    unfold parseLine Text.trimmed
    rw [splitOnce_parts h]
    dsimp only
    rw [String.toList_ofList, String.toList_ofList]
  constructor
  · rintro ⟨before, behind, hparts, hheader⟩
    rw [hline hparts]
    exact parseHeader_eq_ok.2 hheader
  · intro h
    obtain ⟨before, behind, hparts⟩ := exists_parts text.toList
    rw [hline hparts] at h
    exact ⟨before, behind, hparts, parseHeader_eq_ok.1 h⟩

/-- An empty line spells no header. -/
theorem Spells.text_ne {header : HeaderName × HeaderValue} (h : Spells text header) :
    text.isEmpty = false := by
  have hparse := spells_iff.1 h
  cases hempty : text.isEmpty with
  | false => rfl
  | true =>
    rw [String.isEmpty_iff.1 hempty] at hparse
    cases hparse

/-- The line of a header, which fits into the buffer. -/
structure IsHeaderLine (capacity : Nat) (line : Bytes) (header : HeaderName × HeaderValue) :
    Prop where
  fits : line.length ≤ capacity
  spells : ∃ text, IsTextLine text line ∧ Spells text header

theorem IsHeaderLine.isFieldLine {header : HeaderName × HeaderValue}
    (h : IsHeaderLine capacity line header) :
    IsFieldLine capacity line ⟨header.1, header.2, line.length⟩ := by
  obtain ⟨text, hline, hspells⟩ := h.spells
  obtain ⟨hisLine, htext⟩ := isTextLine_iff.1 hline
  exact ⟨hisLine, h.fits, ⟨text, htext, hspells.text_ne, spells_iff.1 hspells⟩, rfl⟩

/-- The header of a field. -/
def Field.header (field : Field) : HeaderName × HeaderValue := (field.name, field.value)

/-- **Lines of headers and an empty line are a block of fields**, which are the headers and take as
many bytes as their lines have. -/
theorem exists_block {lines : List Bytes} {headers : List (HeaderName × HeaderValue)}
    {blank : Bytes} (h : List.Forall₂ (IsHeaderLine capacity) lines headers)
    (hblank : IsTextLine "" blank) (hfits : blank.length ≤ capacity) :
    ∃ fields, HeaderLines capacity (lines.flatten ++ blank) fields ∧
      fieldsSize fields = lines.flatten.length ∧
      fields.map Field.header = headers := by
  induction h with
  | nil =>
    obtain ⟨hline, htext⟩ := isTextLine_iff.1 hblank
    exact ⟨[], .blank hline hfits htext, rfl, rfl⟩
  | @cons line header lines headers hline _ ih =>
    obtain ⟨fields, hlines, hsize, hheaders⟩ := ih
    refine ⟨⟨header.1, header.2, line.length⟩ :: fields, ?_, ?_, ?_⟩
    · rw [List.flatten_cons, List.append_assoc]
      exact .field hline.isFieldLine hlines
    · rw [List.flatten_cons, List.length_append, ← hsize]
      rfl
    · rw [List.map_cons, hheaders]
      rfl

/-- The table of the fields is that of the headers. -/
theorem addFields_eq_ofList (fields : List Field) :
    addFields .empty fields = .ofList (fields.map Field.header) := by
  unfold addFields Headers.ofList
  rw [List.foldl_map]
  rfl

/-- **The table has the values of each name in their order.** -/
theorem values_ofList (name : HeaderName) (fields : List Field) :
    (Headers.ofList (fields.map Field.header)).values name =
      ((fields.map Field.header).filter (·.1 = name)).map Prod.snd := by
  rw [← addFields_eq_ofList, values_addFields, List.filter_map, List.map_map]
  rfl

/-! ## 3. Too many bytes -/

/-- **Fields beyond the limit are not taken.** -/
theorem takeFields_tooLong {lines : Bytes} {fields : List Field}
    (h : HeaderLines capacity lines fields) (hlimit : limit < fieldsSize fields) {r : Reader}
    (hfits : r.Fits) (hcap : r.capacity = capacity) (hahead : r.ahead = lines ++ rest)
    (headers : Headers) :
    ∃ p, takeFields (some limit) (r, headers) = .error (.failed (.http .headersTooLong)) p := by
  induction h generalizing r headers limit with
  | blank => exact absurd hlimit (Nat.not_lt_zero limit)
  | @field line lines field fields hline _ ih =>
    subst hcap
    rw [List.append_assoc] at hahead
    have hcons : fieldsSize (field :: fields) = field.size + fieldsSize fields := rfl
    obtain ⟨q, htake, hbehind, hahead'⟩ := takeField_of_line hfits hahead hline
    rw [takeFields_step, htake]
    dsimp only
    by_cases hless : limit < field.size
    · rw [if_pos hless]
      exact ⟨_, rfl⟩
    · rw [if_neg hless]
      exact ih (by omega) hbehind.fits hbehind.capacity hahead' _

theorem takeHeaders_tooLong {lines : Bytes} {fields : List Field} {r : Reader}
    (h : HeaderLines r.capacity lines fields) (hlimit : limit < fieldsSize fields)
    (hfits : r.Fits) (hahead : r.ahead = lines ++ rest) :
    ∃ q, takeHeaders limit r = .error (.failed (.http .headersTooLong)) q := by
  obtain ⟨p, htake⟩ := takeFields_tooLong h hlimit hfits rfl hahead .empty
  unfold takeHeaders
  rw [htake]
  exact ⟨_, rfl⟩

/-! ## 4. Whole responses -/

/-- **The limit of a head is exact.**  A response starts with a status line of a version that has
headers and that the request accepts, any number of header lines, and an empty line; each fits into
the buffer.  The head is taken exactly if the status line and the header lines have no more bytes
than the request allows, the empty line not counted; it is then the status line's version and status
and the headers of the lines, and what follows the empty line stays.  Otherwise taking it fails, and
the headers are too long. -/
theorem takeHead_limit {request : Request} {r : Reader} {first blank rest : Bytes}
    {lines : List Bytes} {headers : List (HeaderName × HeaderValue)} {version : Version}
    {status : Status} (hfits : r.Fits)
    (hahead : r.ahead = first ++ (lines.flatten ++ (blank ++ rest)))
    (hfirst : IsTextLine text first) (hshort : first.length ≤ r.capacity)
    (hstatus : parseStatusLine? text = some (version, status)) (hlater : version ≠ .http09)
    (haccepts : request.Accepts version)
    (hlines : List.Forall₂ (IsHeaderLine r.capacity) lines headers)
    (hblank : IsTextLine "" blank) :
    ((∃ head q, takeHead request r = .ok head q) ↔
      first.length + lines.flatten.length ≤ request.maxHeaderSize) ∧
    (∀ head q, takeHead request r = .ok head q →
      head = ⟨version, status, .ofList headers⟩ ∧
      (∀ name, head.headers.values name = (headers.filter (·.1 = name)).map Prod.snd) ∧
      q.ahead = rest) ∧
    (request.maxHeaderSize < first.length + lines.flatten.length →
      ∃ q, takeHead request r = .error (.failed (.http .headersTooLong)) q) := by
  have hstarts : mark <+: first :=
    (mark_of_statusLine hstatus).trans (by cases hfirst <;> exact List.prefix_append _ _)
  have hroom : mark.length ≤ r.capacity := Nat.le_trans hstarts.length_le hshort
  have hblank' : blank.length ≤ r.capacity := by
    refine Nat.le_trans ?_ hroom
    cases hblank <;> decide
  obtain ⟨fields, hblock, hsize, rfl⟩ := exists_block hlines hblank hblank'
  rw [← hsize]
  have hmark : mark <+: r.ahead := by
    rw [hahead]
    exact hstarts.trans (List.prefix_append _ _)
  have hstatusLine : IsStatusLine r.capacity first version status :=
    ⟨(isTextLine_iff.1 hfirst).1, hshort, text, (isTextLine_iff.1 hfirst).2, hstatus⟩
  rw [← List.append_assoc lines.flatten] at hahead
  have hwithin (hlimit : first.length + fieldsSize fields ≤ request.maxHeaderSize) :
      ∃ q, takeHead request r = .ok ⟨version, status, .ofList (fields.map Field.header)⟩ q ∧
        q.ahead = rest := by
    refine takeHead_of_heads hfits hroom ?_
    rw [hahead] at hmark ⊢
    rw [← addFields_eq_ofList]
    exact .fields hmark hlater hstatusLine haccepts hblock hlimit
  have hbeyond (hlimit : request.maxHeaderSize < first.length + fieldsSize fields) :
      ∃ q, takeHead request r = .error (.failed (.http .headersTooLong)) q := by
    obtain ⟨q, htake, hbehind, hahead'⟩ :=
      takeStatus_of_line hfits hroom hahead hmark hstatusLine
    unfold takeHead
    rw [Act.bind_ok htake]
    dsimp only
    rw [if_neg (by rw [show version.isWithin _ _ = true from haccepts]; exact Bool.false_ne_true),
      if_neg hlater]
    by_cases hspace : request.maxHeaderSize < first.length
    · rw [if_pos hspace]
      exact ⟨q, rfl⟩
    · rw [if_neg hspace]
      rw [← hbehind.capacity] at hblock
      have hleft : request.maxHeaderSize - first.length < fieldsSize fields := by omega
      obtain ⟨q', htakes⟩ := takeHeaders_tooLong hblock hleft hbehind.fits hahead'
      exact ⟨q', Act.bind_error htakes⟩
  refine ⟨⟨?_, ?_⟩, ?_, hbeyond⟩
  · rintro ⟨head, q, htake⟩
    by_contra hlimit
    obtain ⟨q', hfails⟩ := hbeyond (Nat.lt_of_not_le hlimit)
    cases hfails.symm.trans htake
  · intro hlimit
    obtain ⟨q, htake, -⟩ := hwithin hlimit
    exact ⟨_, q, htake⟩
  · intro head q htake
    rcases Nat.lt_or_ge request.maxHeaderSize (first.length + fieldsSize fields) with hlimit | hlimit
    · obtain ⟨q', hfails⟩ := hbeyond hlimit
      cases hfails.symm.trans htake
    · obtain ⟨q', htake', hrest⟩ := hwithin hlimit
      cases htake'.symm.trans htake
      exact ⟨rfl, fun name => values_ofList name fields, hrest⟩

/-- A response whose head has lines with both endings, one without a colon, and a name twice. -/
def cookieResponse : Reader :=
  .ofInflow ⟨[Bytes.ofString "HTT", Bytes.ofString "P/1.1 200 OK\r\nSet-Cookie: a=1\nX-Empty\r",
    Bytes.ofString "\nset-cookie:b=2 \r\n\r\nbo", Bytes.ofString "dy"], .hang⟩

/-- A request that allows as many bytes as its head has. -/
def cookieRequest : Request := { Request.ofUrl .get "http://a.test/" with maxHeaderSize := 59 }

theorem takeHead_limit_cookies :
    ∃ head q, takeHead cookieRequest cookieResponse = .ok head q ∧
      head.headers.values ⟨"set-cookie"⟩ = [.ofText "a=1", .ofText "b=2"] ∧
      q.ahead = Bytes.ofString "body" := by
  have hlines : List.Forall₂ (IsHeaderLine cookieResponse.capacity)
      [Bytes.ofString "Set-Cookie: a=1" ++ [Bytes.lf], textLine "X-Empty",
        textLine "set-cookie:b=2 "]
      [(⟨"set-cookie"⟩, .ofText "a=1"), (⟨"x-empty"⟩, .ofText ""), (⟨"set-cookie"⟩, .ofText "b=2")] :=
    .cons ⟨by decide, _, .lf (by decide) (by decide), spells_iff.2 rfl⟩ <|
    .cons ⟨by decide, _, .crlf (by decide), spells_iff.2 rfl⟩ <|
    .cons ⟨by decide, _, .crlf (by decide), spells_iff.2 rfl⟩ .nil
  have hahead : cookieResponse.ahead = textLine "HTTP/1.1 200 OK" ++
      ([Bytes.ofString "Set-Cookie: a=1" ++ [Bytes.lf], textLine "X-Empty",
        textLine "set-cookie:b=2 "].flatten ++ (textLine "" ++ Bytes.ofString "body")) := by
    decide +kernel
  have hstatus : parseStatusLine? "HTTP/1.1 200 OK" = some (.http11, .okay) := rfl
  have haccepts : cookieRequest.Accepts .http11 := rfl
  obtain ⟨hiff, hhead, -⟩ := takeHead_limit (Reader.fits_ofInflow _) hahead (.crlf (by decide))
    (by decide) hstatus (by decide) haccepts hlines (.crlf (by decide))
  obtain ⟨head, q, htake⟩ := hiff.2 (by decide)
  obtain ⟨rfl, hvalues, hrest⟩ := hhead head q htake
  exact ⟨_, q, htake, hvalues _, hrest⟩

end Http

end UrlTransfer
