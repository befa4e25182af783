/-
# What the head of a response takes off the stream

The head of a response is a front of what arrives on the connection: nothing at all where the stream
does not start with the mark of the protocol, and else a status line and, unless it names the oldest
version, a block of header fields.  `Heads` says so of a stream, without a word about reading, and
of a request that accepts the head: it asks for that version, and sets no smaller limit.

Exactly the streams that start with such a head have it taken, and the reader stands right behind it
(`heads_iff`).  What stands behind the stream does not matter for this, so a body that never ends,
or breaks off, is in front of the reader as well.
-/
import Mathlib.Algebra.GroupWithZero.Nat
import UrlTransfer.Proofs.Http.Cutting

namespace UrlTransfer

namespace Http

/-! ## 1. Streams that start with a head -/

/-- A status line, which fits into the buffer. -/
structure IsStatusLine (capacity : Nat) (line : Bytes) (version : Version) (status : Status) :
    Prop where
  isLine : IsLine line
  fits : line.length ≤ capacity
  text : ∃ text, lineText? line = some text ∧ parseStatusLine? text = some (version, status)

/-- How many bytes the lines of header fields take. -/
def fieldsSize (fields : List Field) : Nat := (fields.map Field.size).sum

/-- The request asks for this version, among others. -/
def Request.Accepts (request : Request) (version : Version) : Prop :=
  version.isWithin request.minVersion request.maxVersion = true

/-- A stream starts with a head that the request accepts, and these bytes are behind it. -/
inductive Heads (capacity : Nat) (request : Request) : Bytes → Head → Bytes → Prop where
  | unmarked {bytes : Bytes} (enough : mark.length ≤ bytes.length) (unmarked : ¬ mark <+: bytes)
      (accepts : request.Accepts .http09) :
      Heads capacity request bytes ⟨.http09, .okay, .empty⟩ bytes
  | oldest {line rest : Bytes} {status : Status} (marked : mark <+: line ++ rest)
      (first : IsStatusLine capacity line .http09 status) (accepts : request.Accepts .http09) :
      Heads capacity request (line ++ rest) ⟨.http09, status, .empty⟩ rest
  | fields {line lines rest : Bytes} {version : Version} {status : Status} {fields : List Field}
      (marked : mark <+: line ++ (lines ++ rest)) (later : version ≠ .http09)
      (first : IsStatusLine capacity line version status) (accepts : request.Accepts version)
      (block : HeaderLines capacity lines fields)
      (limit : line.length + fieldsSize fields ≤ request.maxHeaderSize) :
      Heads capacity request (line ++ (lines ++ rest)) ⟨version, status, addFields .empty fields⟩
        rest

end Http

/-! ## 2. Lines off the stream -/

/-- `r'` stands behind some bytes of the stream of `r`. -/
structure Reader.Behind (front : Bytes) (r r' : Reader) : Prop where
  ahead : r.ahead = front ++ r'.ahead
  ending : r'.inflow.ending = r.inflow.ending
  capacity : r'.capacity = r.capacity
  fits : r'.Fits

theorem Reader.Behind.trans {front more : Bytes} {r r' r'' : Reader} (h : Behind front r r')
    (h' : Behind more r' r'') : Behind (front ++ more) r r'' where
  ahead := by rw [h.ahead, h'.ahead, List.append_assoc]
  ending := h'.ending.trans h.ending
  capacity := h'.capacity.trans h.capacity
  fits := h'.fits

/-- Passing a front of what is ahead goes behind it. -/
theorem Reader.Passed.behind {front rest : Bytes} {r r' : Reader}
    (h : Passed front.length r r') (hfits : r.Fits) (hahead : r.ahead = front ++ rest) :
    Behind front r r' ∧ r'.ahead = rest := by
  have hrest : r'.ahead = rest := by rw [h.ahead, hahead, List.drop_left]
  exact ⟨⟨by rw [hrest, hahead], h.ending, h.capacity, h.fits hfits⟩, hrest⟩

/-- Filling the buffer stays in front of the same bytes. -/
theorem Reader.fill_behind {r r' : Reader} {k : Nat} (hfits : r.Fits) (h : fill r = .ok k r') :
    Behind [] r r' := by
  have hpassed := fill_passed h
  exact ⟨hpassed.ahead.symm, hpassed.ending, hpassed.capacity, hpassed.fits hfits⟩

theorem Reader.consume_behind {n : Nat} {r : Reader} (hfits : r.Fits) (h : n ≤ r.unread.length) :
    Behind (r.unread.take n) r (r.consume n) := by
  have hpassed := consume_passed h
  exact ⟨(takeBuffered_ahead rfl).symm, hpassed.ending, hpassed.capacity, hpassed.fits hfits⟩

namespace Http

open Reader (Behind)

theorem awaitMark_behind {r r' : Reader} (hfits : r.Fits) (h : awaitMark r = .ok () r') :
    Behind [] r r' := by
  fun_induction awaitMark r with
  | case1 r => cases h; exact ⟨rfl, rfl, rfl, hfits⟩
  | case2 => cases h
  | case3 => cases h
  | case4 r _ k r'' hfill ih =>
    have hbehind := Reader.fill_behind hfits hfill
    exact hbehind.trans (ih hbehind.fits h)

/-- The line that was waited for is the first of the stream. -/
theorem awaitLine_behind {r r' : Reader} {n : Nat} (hfits : r.Fits) (h : awaitLine r = .ok n r') :
    Behind [] r r' ∧ lineLength? r'.unread = some n := by
  fun_induction awaitLine r with
  | case1 r m hline => cases h; exact ⟨⟨rfl, rfl, rfl, hfits⟩, hline⟩
  | case2 => cases h
  | case3 => cases h
  | case4 => cases h
  | case5 r _ k r'' hfill ih =>
    have hbehind := Reader.fill_behind hfits hfill
    obtain ⟨hbehind', hline⟩ := ih hbehind.fits h
    exact ⟨hbehind.trans hbehind', hline⟩

/-- A line is seen at the front of the stream, and consuming it goes behind it. -/
theorem peekLine_behind {r r' : Reader} {text : String} {n : Nat} (hfits : r.Fits)
    (h : peekLine r = .ok (text, n) r') :
    ∃ line, IsLine line ∧ line.length = n ∧ n ≤ r.capacity ∧ lineText? line = some text ∧
      Behind line r (r'.consume n) := by
  unfold peekLine at h
  split at h
  · cases h
  · next m r1 hawait =>
    split at h
    · next text' htext =>
      cases h
      obtain ⟨hbehind, hline⟩ := awaitLine_behind hfits hawait
      obtain ⟨hisLine, hle⟩ := isLine_of_lineLength? hline
      refine ⟨_, hisLine, List.length_take_of_le hle, ?_, htext,
        hbehind.trans (Reader.consume_behind hbehind.fits hle)⟩
      rw [← hbehind.capacity]
      exact Nat.le_trans hle hbehind.fits
    · cases h

theorem lookLine_line {capacity : Nat} {bytes line : Bytes} (hline : IsLine line)
    (hshown : line <+: bytes.take capacity) :
    lookLine capacity bytes = some (.ok line.length) := by
  obtain ⟨behind, hsplit⟩ := hshown
  unfold lookLine
  rw [← hsplit, hline.lineLength?]

/-- **A line that is seen as a whole is read as its text**, if it has one, and stays. -/
theorem peekLine_shown {r : Reader} {line : Bytes} (hfits : r.Fits) (hline : IsLine line)
    (hshown : line <+: r.ahead.take r.capacity) :
    ∃ q, Reader.Passed 0 r q ∧ peekLine r = match lineText? line with
      | some text => .ok (text, line.length) q
      | none => .error (.failed .invalidUtf8) q := by
  have hends := looks_awaitLine.ends rfl hfits
  unfold Reader.lookAhead at hends
  rw [lookLine_line hline hshown] at hends
  obtain ⟨q, hawait, hpassed⟩ := hends
  obtain ⟨hsame, -, hn⟩ := awaitLine_view hawait
  have htake : q.unread.take line.length = line := by
    obtain ⟨behind, hsplit⟩ := hshown.trans (List.take_prefix _ _)
    have hfront := congrArg (List.take line.length) (hsame.trans hsplit.symm)
    rwa [Reader.ahead, List.take_append_of_le_length hn, List.take_left] at hfront
  refine ⟨q, hpassed, ?_⟩
  unfold peekLine
  rw [hawait]
  cases htext : lineText? line <;> simp only [htake, htext]

/-- **A line at the front of the stream is seen**, if it fits into the buffer. -/
theorem peekLine_of_line {r : Reader} {line rest : Bytes} {text : String} (hfits : r.Fits)
    (hahead : r.ahead = line ++ rest) (hline : IsLine line) (hle : line.length ≤ r.capacity)
    (htext : lineText? line = some text) :
    ∃ r', peekLine r = .ok (text, line.length) r' ∧ Behind line r (r'.consume line.length) ∧
      (r'.consume line.length).ahead = rest := by
  have hshown : line <+: r.ahead.take r.capacity := by
    rw [List.prefix_take_iff, hahead]
    exact ⟨List.prefix_append _ _, hle⟩
  obtain ⟨r', hpassed, hpeek⟩ := peekLine_shown hfits hline hshown
  rw [htext] at hpeek
  have hconsumed := hpassed.trans (Reader.consume_passed (peekLine_view hpeek).2.2)
  rw [Nat.zero_add] at hconsumed
  exact ⟨r', hpeek, hconsumed.behind hfits hahead⟩

/-- A line is taken where it is seen. -/
theorem takeLine_ok {r r' : Reader} {text : String} {n : Nat} :
    takeLine r = .ok (text, n) r' ↔ ∃ q, peekLine r = .ok (text, n) q ∧ r' = q.consume n := by
  unfold takeLine
  constructor
  · intro h
    split at h
    · cases h
    · next hpeek =>
      cases h
      exact ⟨_, hpeek, rfl⟩
  · rintro ⟨q, hpeek, rfl⟩
    rw [hpeek]

/-- What is taken is the line of a field, or the empty line behind the last one. -/
theorem takeField_behind {r r' : Reader} {o : Option Field} (hfits : r.Fits)
    (h : takeField r = .ok o r') :
    ∃ line, Behind line r r' ∧
      match o with
      | none => HeaderLines r.capacity line []
      | some field => IsFieldLine r.capacity line field := by
  unfold takeField at h
  split at h
  · cases h
  · next hpeek =>
    obtain ⟨line, hisLine, hlength, hle, htext, hbehind⟩ := peekLine_behind hfits hpeek
    have hshort : line.length ≤ r.capacity := by omega
    split at h
    · next hempty =>
      cases h
      refine ⟨line, hbehind, .blank hisLine hshort ?_⟩
      rw [htext, String.isEmpty_iff.1 hempty]
    · next hempty =>
      split at h
      · next hparse =>
        cases h
        exact ⟨line, hbehind, hisLine, hshort, ⟨_, htext, by simpa using hempty, hparse⟩,
          hlength.symm⟩
      · cases h

/-- **The line of a field is taken**, and so is the empty line behind the last one. -/
theorem takeField_of_line {r : Reader} {line rest : Bytes} {field : Field} (hfits : r.Fits)
    (hahead : r.ahead = line ++ rest) (hline : IsFieldLine r.capacity line field) :
    ∃ r', takeField r = .ok (some field) r' ∧ Behind line r r' ∧ r'.ahead = rest := by
  obtain ⟨text, htext, hempty, hparse⟩ := hline.text
  obtain ⟨r', hpeek, hbehind⟩ := peekLine_of_line hfits hahead hline.isLine hline.fits htext
  refine ⟨r'.consume line.length, ?_, hbehind⟩
  unfold takeField
  rw [hpeek]
  dsimp only
  rw [if_neg (by rw [hempty]; exact Bool.false_ne_true), hparse, ← hline.size]

theorem takeField_of_blank {r : Reader} {line rest : Bytes} (hfits : r.Fits)
    (hahead : r.ahead = line ++ rest) (hline : IsLine line) (hle : line.length ≤ r.capacity)
    (htext : lineText? line = some "") :
    ∃ r', takeField r = .ok none r' ∧ Behind line r r' ∧ r'.ahead = rest := by
  obtain ⟨r', hpeek, hbehind⟩ := peekLine_of_line hfits hahead hline hle htext
  refine ⟨r'.consume line.length, ?_, hbehind⟩
  unfold takeField
  rw [hpeek]
  rfl

/-! ## 3. Heads off the stream -/

/-- **Header fields are taken off with their lines**, which are within the limit if there is one. -/
theorem takeFields_behind {limit : Option Nat} {r r' : Reader} {headers headers' : Headers}
    (hfits : r.Fits) (h : takeFields limit (r, headers) = .ok () (r', headers')) :
    ∃ lines fields, Behind lines r r' ∧ HeaderLines r.capacity lines fields ∧
      headers' = addFields headers fields ∧ ∀ left ∈ limit, fieldsSize fields ≤ left := by
  -- On what is ahead: every field takes its line off.
  induction hsize : r.size using Nat.strongRecOn generalizing r headers limit with
  | ind size ih =>
    rw [takeFields_step] at h
    cases htake : takeField r with
    | error halt r1 => rw [htake] at h; cases h
    | ok o r1 =>
      rw [htake] at h
      obtain ⟨line, hbehind, hline⟩ := takeField_behind hfits htake
      cases o with
      | none =>
        cases h
        exact ⟨line, [], hbehind, hline, rfl, fun _ _ => Nat.zero_le _⟩
      | some field =>
        have hless := size_takeField htake
        -- The limit decides whether to go on, and goes down by the field.
        have hnext : ∃ limit', takeFields limit' (r1, headers.append field.name field.value) =
            .ok () (r', headers') ∧
              ∀ left ∈ limit, field.size ≤ left ∧ left - field.size ∈ limit' := by
          cases limit with
          | none => exact ⟨none, h, nofun⟩
          | some left =>
            dsimp only at h
            split at h
            · cases h
            · next hle =>
              refine ⟨_, h, fun left' hleft => ?_⟩
              cases hleft
              exact ⟨Nat.le_of_not_lt hle, rfl⟩
        obtain ⟨limit', hnext, hlimit⟩ := hnext
        obtain ⟨lines, fields, hbehind', hlines, hheaders, hsizes⟩ :=
          ih _ (by omega) hbehind.fits hnext rfl
        rw [hbehind.capacity] at hlines
        refine ⟨line ++ lines, field :: fields, hbehind.trans hbehind', .field hline hlines,
          hheaders, fun left hleft => ?_⟩
        obtain ⟨hle, hmem⟩ := hlimit left hleft
        have hrest := hsizes _ hmem
        have hcons : fieldsSize (field :: fields) = field.size + fieldsSize fields := rfl
        omega

/-- **A block of header fields is taken**, if it is within the limit. -/
theorem takeFields_of_block {capacity limit : Nat} {lines rest : Bytes} {fields : List Field}
    (h : HeaderLines capacity lines fields) (hlimit : fieldsSize fields ≤ limit) {r : Reader}
    (hfits : r.Fits) (hcap : r.capacity = capacity) (hahead : r.ahead = lines ++ rest)
    (headers : Headers) :
    ∃ r', takeFields (some limit) (r, headers) = .ok () (r', addFields headers fields) ∧
      r'.ahead = rest := by
  induction h generalizing r headers limit with
  | blank hline hle htext =>
    subst hcap
    obtain ⟨r', htake, -, hrest⟩ := takeField_of_blank hfits hahead hline hle htext
    refine ⟨r', ?_, hrest⟩
    rw [takeFields_step, htake]
    rfl
  | @field line lines field fields hline _ ih =>
    subst hcap
    rw [List.append_assoc] at hahead
    have hcons : fieldsSize (field :: fields) = field.size + fieldsSize fields := rfl
    obtain ⟨r1, htake, hbehind, hahead'⟩ := takeField_of_line hfits hahead hline
    have hleft : fieldsSize fields ≤ limit - field.size := by omega
    obtain ⟨r', htakes, hrest⟩ := ih hleft hbehind.fits hbehind.capacity hahead'
      (headers.append field.name field.value)
    refine ⟨r', ?_, hrest⟩
    rw [takeFields_step, htake]
    dsimp only
    rw [if_neg (by omega)]
    exact htakes

theorem takeHeaders_behind {limit : Nat} {r r' : Reader} {headers : Headers} (hfits : r.Fits)
    (h : takeHeaders limit r = .ok headers r') :
    ∃ lines fields, Behind lines r r' ∧ HeaderLines r.capacity lines fields ∧
      headers = addFields .empty fields ∧ fieldsSize fields ≤ limit := by
  unfold takeHeaders at h
  split at h
  · next htake =>
    cases h
    obtain ⟨lines, fields, hbehind, hlines, hheaders, hsizes⟩ := takeFields_behind hfits htake
    exact ⟨lines, fields, hbehind, hlines, hheaders, hsizes limit rfl⟩
  · cases h

theorem takeHeaders_of_block {limit : Nat} {lines rest : Bytes} {fields : List Field} {r : Reader}
    (h : HeaderLines r.capacity lines fields) (hlimit : fieldsSize fields ≤ limit)
    (hfits : r.Fits) (hahead : r.ahead = lines ++ rest) :
    ∃ r', takeHeaders limit r = .ok (addFields .empty fields) r' ∧ r'.ahead = rest := by
  obtain ⟨r', htake, hrest⟩ := takeFields_of_block h hlimit hfits rfl hahead .empty
  refine ⟨r', ?_, hrest⟩
  unfold takeHeaders
  rw [htake]

/-- A buffer with as many bytes as the mark has shows whether the stream starts with it. -/
theorem mark_isPrefixOf_iff {r : Reader} (hlong : mark.length ≤ r.unread.length) :
    mark.isPrefixOf r.unread = true ↔ mark <+: r.ahead := by
  rw [List.isPrefixOf_iff_prefix]
  exact ⟨fun hm => hm.trans (List.prefix_append _ _),
    fun hm => List.prefix_of_prefix_length_le hm (List.prefix_append _ _) hlong⟩

/-- The first line of a response, if it has one. -/
theorem takeStatus_behind {r r' : Reader} {version : Version} {status : Status} {n : Nat}
    (hfits : r.Fits) (h : takeStatus r = .ok (version, status, n) r') :
    (mark.length ≤ r.ahead.length ∧ ¬ mark <+: r.ahead ∧ version = .http09 ∧ status = .okay ∧
        Behind [] r r') ∨
      (mark <+: r.ahead ∧ ∃ line, IsStatusLine r.capacity line version status ∧
        line.length = n ∧ Behind line r r') := by
  unfold takeStatus at h
  obtain ⟨_, r1, hmark, h⟩ := Act.bind_eq_ok.1 h
  obtain ⟨r1', r2, hget, h⟩ := Act.bind_eq_ok.1 h
  cases hget
  have hlong := awaitMark_view hmark
  have hwait := awaitMark_behind hfits hmark
  have hahead : r.ahead = r1.ahead := hwait.ahead
  have hstarts := mark_isPrefixOf_iff hlong
  rw [← hahead] at hstarts
  split at h
  · next hprefix =>
    obtain ⟨⟨text, size⟩, r2, htake, h⟩ := Act.bind_eq_ok.1 h
    obtain ⟨q, hpeek, rfl⟩ := takeLine_ok.1 htake
    obtain ⟨line, hisLine, hlength, hle, htext, hbehind⟩ := peekLine_behind hwait.fits hpeek
    cases hparse : parseStatusLine? text with
    | none => simp only [hparse] at h; cases h
    | some parsed =>
      simp only [hparse] at h
      cases h
      rw [hwait.capacity] at hle
      exact .inr ⟨hstarts.1 hprefix, line, ⟨hisLine, by omega, _, htext, hparse⟩, hlength,
        hwait.trans hbehind⟩
  · next hprefix =>
    cases h
    refine .inl ⟨?_, fun hm => hprefix (hstarts.2 hm), rfl, rfl, hwait⟩
    rw [hahead, Reader.ahead, List.length_append]
    omega

/-- The mark is waited for as long as it may come. -/
theorem awaitMark_of_length {r : Reader} (hfits : r.Fits) (hroom : mark.length ≤ r.capacity)
    (hlong : mark.length ≤ r.ahead.length) : ∃ r', awaitMark r = .ok () r' ∧ Behind [] r r' := by
  have hends := (looks_awaitMark hroom).ends rfl hfits
  unfold Reader.lookAhead at hends
  dsimp only at hends
  rw [if_pos hlong] at hends
  obtain ⟨r', hawait, hpassed⟩ := hends
  have hnothing : Reader.Passed (List.length ([] : Bytes)) r r' := hpassed
  exact ⟨r', hawait, (hnothing.behind hfits rfl).1⟩

theorem takeStatus_unmarked {r : Reader} (hfits : r.Fits) (hroom : mark.length ≤ r.capacity)
    (hlong : mark.length ≤ r.ahead.length) (hmark : ¬ mark <+: r.ahead) :
    ∃ r', takeStatus r = .ok (.http09, .okay, 0) r' ∧ r'.ahead = r.ahead := by
  obtain ⟨r1, hawait, hbehind⟩ := awaitMark_of_length hfits hroom hlong
  have hahead : r.ahead = r1.ahead := hbehind.ahead
  have hget : (get : Act Error Reader Reader) r1 = .ok r1 r1 := rfl
  refine ⟨r1, ?_, hahead.symm⟩
  unfold takeStatus
  rw [Act.bind_ok hawait, Act.bind_ok hget, if_neg]
  · rfl
  · rw [mark_isPrefixOf_iff (awaitMark_view hawait), ← hahead]
    exact hmark

theorem takeStatus_of_line {r : Reader} {line rest : Bytes} {version : Version} {status : Status}
    (hfits : r.Fits) (hroom : mark.length ≤ r.capacity) (hahead : r.ahead = line ++ rest)
    (hmark : mark <+: r.ahead) (hline : IsStatusLine r.capacity line version status) :
    ∃ r', takeStatus r = .ok (version, status, line.length) r' ∧ Behind line r r' ∧
      r'.ahead = rest := by
  obtain ⟨r1, hawait, hbehind⟩ := awaitMark_of_length hfits hroom hmark.length_le
  have hsame : r.ahead = r1.ahead := hbehind.ahead
  have hget : (get : Act Error Reader Reader) r1 = .ok r1 r1 := rfl
  obtain ⟨text, htext, hparse⟩ := hline.text
  obtain ⟨q, hpeek, hbehind', hrest⟩ := peekLine_of_line hbehind.fits (hsame.symm.trans hahead)
    hline.isLine (by rw [hbehind.capacity]; exact hline.fits) htext
  refine ⟨_, ?_, hbehind.trans hbehind', hrest⟩
  unfold takeStatus
  rw [Act.bind_ok hawait, Act.bind_ok hget, if_pos]
  · rw [Act.bind_ok (takeLine_ok.2 ⟨q, hpeek, rfl⟩)]
    dsimp only
    rw [hparse]
    rfl
  · rw [mark_isPrefixOf_iff (awaitMark_view hawait), ← hsame]
    exact hmark

/-- **The reader stands right behind the head of the response**, which the request accepts. -/
theorem heads_of_takeHead {request : Request} {r r' : Reader} {head : Head} (hfits : r.Fits)
    (h : takeHead request r = .ok head r') :
    Heads r.capacity request r.ahead head r'.ahead ∧ r'.inflow.ending = r.inflow.ending := by
  unfold takeHead at h
  obtain ⟨⟨version, status, size⟩, r1, hstatus, h⟩ := Act.bind_eq_ok.1 h
  have hcases := takeStatus_behind hfits hstatus
  dsimp only at h
  split at h
  · cases h
  · next hwithin =>
    have haccepts : request.Accepts version := by
      unfold Request.Accepts
      simpa using hwithin
    split at h
    · next hversion =>
      subst hversion
      cases h
      rcases hcases with ⟨hlong, hmark, -, rfl, hbehind⟩ | ⟨hmark, line, hline, -, hbehind⟩
      · have hahead : r.ahead = r'.ahead := hbehind.ahead
        rw [hahead] at hmark hlong ⊢
        exact ⟨.unmarked hlong hmark haccepts, hbehind.ending⟩
      · rw [hbehind.ahead] at hmark ⊢
        exact ⟨.oldest hmark hline haccepts, hbehind.ending⟩
    · next hversion =>
      split at h
      · cases h
      · next hspace =>
        obtain ⟨headers, r2, hheaders, h⟩ := Act.bind_eq_ok.1 h
        cases h
        rcases hcases with ⟨-, -, rfl, -⟩ | ⟨hmark, line, hline, hlength, hbehind⟩
        · exact absurd rfl hversion
        · obtain ⟨lines, fields, hbehind', hlines, rfl, hsizes⟩ :=
            takeHeaders_behind hbehind.fits hheaders
          rw [hbehind.capacity] at hlines
          rw [hbehind.ahead, hbehind'.ahead] at hmark ⊢
          exact ⟨.fields hmark hversion hline haccepts hlines (by omega),
            hbehind'.ending.trans hbehind.ending⟩

/-- **A head that the request accepts is taken.** -/
theorem takeHead_of_heads {request : Request} {r : Reader} {head : Head} {rest : Bytes}
    (hfits : r.Fits) (hroom : mark.length ≤ r.capacity)
    (h : Heads r.capacity request r.ahead head rest) :
    ∃ r', takeHead request r = .ok head r' ∧ r'.ahead = rest := by
  have hwithin {version : Version} (haccepts : request.Accepts version) :
      ¬ (!version.isWithin request.minVersion request.maxVersion) = true := by
    rw [show version.isWithin request.minVersion request.maxVersion = true from haccepts]
    exact Bool.false_ne_true
  unfold takeHead
  generalize hahead : r.ahead = bytes at h
  cases h with
  | unmarked hlong hmark haccepts =>
    rw [← hahead] at hlong hmark
    obtain ⟨r', htake, hrest⟩ := takeStatus_unmarked hfits hroom hlong hmark
    refine ⟨r', ?_, hrest.trans hahead⟩
    rw [Act.bind_ok htake]
    dsimp only
    rw [if_neg (hwithin haccepts), if_pos rfl]
    rfl
  | oldest hmark hline haccepts =>
    rw [← hahead] at hmark
    obtain ⟨r', htake, -, hrest⟩ := takeStatus_of_line hfits hroom hahead hmark hline
    refine ⟨r', ?_, hrest⟩
    rw [Act.bind_ok htake]
    dsimp only
    rw [if_neg (hwithin haccepts), if_pos rfl]
    rfl
  | fields hmark hversion hline haccepts hlines hlimit =>
    rw [← hahead] at hmark
    obtain ⟨r1, htake, hbehind, hahead'⟩ := takeStatus_of_line hfits hroom hahead hmark hline
    rw [← hbehind.capacity] at hlines
    obtain ⟨r', hheaders, hrest⟩ := takeHeaders_of_block hlines
      (Nat.le_sub_of_add_le' hlimit) hbehind.fits hahead'
    refine ⟨r', ?_, hrest⟩
    rw [Act.bind_ok htake]
    dsimp only
    rw [if_neg (hwithin haccepts), if_neg hversion, if_neg (by omega), Act.bind_ok hheaders]
    rfl

/-- **Exactly the heads that the request accepts are taken**, and everything behind them stays. -/
theorem heads_iff {request : Request} {r : Reader} {head : Head} {rest : Bytes} (hfits : r.Fits)
    (hroom : mark.length ≤ r.capacity) :
    (∃ r', takeHead request r = .ok head r' ∧ r'.ahead = rest) ↔
      Heads r.capacity request r.ahead head rest := by
  constructor
  · rintro ⟨r', htake, rfl⟩
    exact (heads_of_takeHead hfits htake).1
  · exact takeHead_of_heads hfits hroom

/-- A stream starts with one head at most that the request accepts. -/
theorem Heads.unique {capacity : Nat} {request : Request} {bytes rest rest' : Bytes}
    {head head' : Head} (hroom : mark.length ≤ capacity)
    (h : Heads capacity request bytes head rest) (h' : Heads capacity request bytes head' rest') :
    head = head' ∧ rest = rest' := by
  have hfits : (Reader.withCapacity capacity ⟨[bytes], .eof⟩).Fits := Nat.zero_le _
  have hahead : (Reader.withCapacity capacity ⟨[bytes], .eof⟩).ahead = bytes := List.append_nil _
  obtain ⟨r, htake, rfl⟩ := takeHead_of_heads hfits hroom (by rw [hahead]; exact h)
  obtain ⟨r', htake', rfl⟩ := takeHead_of_heads hfits hroom (by rw [hahead]; exact h')
  rw [htake] at htake'
  cases htake'
  exact ⟨rfl, rfl⟩

end Http

end UrlTransfer
