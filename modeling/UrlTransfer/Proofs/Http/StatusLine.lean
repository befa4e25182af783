/-
# Which status lines there are

A status line is the name of a version, a space and the three digits of a code.  Behind them is
nothing, or another space and anything at all.  `IsStatusText` is that grammar, written down without
a reader.  A line is read as a version and a code exactly if it is one of theirs
(`parseStatusLine?_eq_some_iff`), and a name is read as a version exactly if it is the version's
(`Version.parse?_eq_some_iff`).

A name can also be read off the bytes of a text, where each of its parts has a fixed place.  Bytes
can be missed: `byteAt` fails behind the last one.  `Version.readAt` asks for the length before it
looks anywhere, so it never comes to that, not even for bytes that are no text (`readAt_eq`).  A
place may lie inside a character, but not in a name, which has one byte for each character; and so
nothing else is taken for one (`readAt_ofString`).
-/
import UrlTransfer.Http.Head
import UrlTransfer.Proofs.Text.Numeral
import UrlTransfer.Proofs.WebSocket.Words

namespace UrlTransfer

namespace Http

/-! ## 1. Versions -/

namespace Version

/-- The first number in the name of a version. -/
def major : Version → Nat
  | http09 => 0
  | http10 => 1
  | http11 => 1
  | http20 => 2
  | http30 => 3

/-- The second number in the name of a version. -/
def minor : Version → Nat
  | http09 => 9
  | http10 => 0
  | http11 => 1
  | http20 => 0
  | http30 => 0

variable {v : Version} {m n : Nat}

theorem ofNumbers?_eq_some_iff : ofNumbers? m n = some v ↔ m = v.major ∧ n = v.minor := by
  constructor
  · intro h
    unfold ofNumbers? at h
    split at h <;> cases h <;> exact ⟨rfl, rfl⟩
  · rintro ⟨rfl, rfl⟩
    cases v <;> rfl

/-- A name is the mark, and the two numbers with a dot in between. -/
theorem toList_text (v : Version) :
    v.text.toList =
      ['H', 'T', 'T', 'P', '/', Nat.digitChar v.major, '.', Nat.digitChar v.minor] := by
  cases v <;> rfl

/-- **A text is read as a version exactly if it is the name of that version.** -/
theorem parse?_eq_some_iff {cs : List Char} : parse? cs = some v ↔ cs = v.text.toList := by
  constructor
  · intro h
    unfold parse? at h
    split at h
    · obtain ⟨m, hmajor, h⟩ := Option.bind_eq_some_iff.1 h
      obtain ⟨n, hminor, h⟩ := Option.bind_eq_some_iff.1 h
      obtain ⟨rfl, rfl⟩ := ofNumbers?_eq_some_iff.1 h
      obtain ⟨-, rfl⟩ := Numeral.digit?_eq_some_iff.1 hmajor
      obtain ⟨-, rfl⟩ := Numeral.digit?_eq_some_iff.1 hminor
      rw [toList_text]
    · cases h
  · rintro rfl
    exact parse?_text v

end Version

/-! ## 2. Codes -/

/-- Three decimal digits, and the number that they stand for. -/
inductive IsCode (n : Nat) : List Char → Prop where
  | digits {hundreds tens ones : Nat} (hundreds_lt : hundreds < 10) (tens_lt : tens < 10)
      (ones_lt : ones < 10) (value : 100 * hundreds + 10 * tens + ones = n) :
      IsCode n [Nat.digitChar hundreds, Nat.digitChar tens, Nat.digitChar ones]

/-- Three characters are read as a number exactly if they are its digits. -/
theorem read?_eq_some_iff_isCode {first second third : Char} {n : Nat} :
    Numeral.read? 10 [first, second, third] = some n ↔ IsCode n [first, second, third] := by
  have hread : Numeral.read? 10 [first, second, third] =
      Numeral.valueFrom? 10 0 [first, second, third] := rfl
  rw [hread, Numeral.valueFrom?_cons]
  constructor
  · intro h
    obtain ⟨hundreds, hfirst, h⟩ := Option.bind_eq_some_iff.1 h
    rw [Numeral.valueFrom?_cons] at h
    obtain ⟨tens, hsecond, h⟩ := Option.bind_eq_some_iff.1 h
    rw [Numeral.valueFrom?_cons] at h
    obtain ⟨ones, hthird, h⟩ := Option.bind_eq_some_iff.1 h
    have hvalue : ((0 * 10 + hundreds) * 10 + tens) * 10 + ones = n := Option.some.inj h
    obtain ⟨hhundreds, rfl⟩ := Numeral.digit?_eq_some_iff.1 hfirst
    obtain ⟨htens, rfl⟩ := Numeral.digit?_eq_some_iff.1 hsecond
    obtain ⟨hones, rfl⟩ := Numeral.digit?_eq_some_iff.1 hthird
    exact .digits hhundreds htens hones (by omega)
  · rintro ⟨hhundreds, htens, hones, hvalue⟩
    rw [Numeral.digit?_eq_some_iff.2 ⟨hhundreds, rfl⟩, Option.bind_some, Numeral.valueFrom?_cons,
      Numeral.digit?_eq_some_iff.2 ⟨htens, rfl⟩, Option.bind_some, Numeral.valueFrom?_cons,
      Numeral.digit?_eq_some_iff.2 ⟨hones, rfl⟩, Option.bind_some, Numeral.valueFrom?]
    congr 1
    omega

namespace Status

variable {status : Status} {n : Nat} {cs : List Char}

theorem ofNat?_eq_some_iff : ofNat? n = some status ↔ n = status.code := by
  unfold ofNat?
  constructor
  · intro h
    split at h
    · cases h; rfl
    · cases h
  · rintro rfl
    rw [dif_pos ⟨status.least, status.greatest⟩]

/-- **A text is read as a code exactly if it is its three digits.** -/
theorem parse?_eq_some_iff : parse? cs = some status ↔ IsCode status.code cs := by
  constructor
  · intro h
    unfold parse? at h
    split at h
    · obtain ⟨n, hread, hstatus⟩ := Option.bind_eq_some_iff.1 h
      obtain rfl := ofNat?_eq_some_iff.1 hstatus
      exact read?_eq_some_iff_isCode.1 hread
    · cases h
  · intro h
    obtain ⟨first, second, third, rfl⟩ : ∃ first second third, cs = [first, second, third] := by
      cases h
      exact ⟨_, _, _, rfl⟩
    unfold parse?
    rw [read?_eq_some_iff_isCode.2 h, Option.bind_some, ofNat?_eq_some_iff]

end Status

/-- No digit is a space. -/
theorem IsCode.no_space {n : Nat} {digits : List Char} (h : IsCode n digits) : ' ' ∉ digits := by
  have hdigit : ∀ d < 10, Nat.digitChar d ≠ ' ' := by decide
  cases h with
  | digits hhundreds htens hones =>
    simp [(hdigit _ hhundreds).symm, (hdigit _ htens).symm, (hdigit _ hones).symm]

theorem Version.no_space (v : Version) : ' ' ∉ v.text.toList := by cases v <;> decide

/-! ## 3. Lines -/

/-- The status lines of a version and a code. -/
inductive IsStatusText (version : Version) (status : Status) : List Char → Prop where
  /-- Nothing is behind the code. -/
  | bare {digits : List Char} (code : IsCode status.code digits) :
      IsStatusText version status (version.text.toList ++ ' ' :: digits)
  /-- Anything is behind the code and a space. -/
  | reasoned {digits : List Char} (reason : List Char) (code : IsCode status.code digits) :
      IsStatusText version status (version.text.toList ++ ' ' :: (digits ++ ' ' :: reason))

variable {line : String} {version : Version} {status : Status}

/-- **A line is read as a version and a code exactly if it is one of their status lines.** -/
theorem parseStatusLine?_eq_some_iff :
    parseStatusLine? line = some (version, status) ↔
      IsStatusText version status line.toList := by
  unfold parseStatusLine? Text.splitAt
  constructor
  · intro h
    split at h
    · next name digits pieces hsplit =>
      obtain ⟨v, hversion, h⟩ := Option.bind_eq_some_iff.1 h
      obtain ⟨s, hstatus, h⟩ := Option.bind_eq_some_iff.1 h
      cases h
      rw [Version.parse?_eq_some_iff] at hversion
      rw [Status.parse?_eq_some_iff] at hstatus
      have hjoin : [' '].intercalate (line.toList.splitOn ' ') = line.toList :=
        List.intercalate_splitOn ' '
      rw [hsplit, hversion] at hjoin
      rw [← hjoin]
      cases pieces with
      | nil => simpa using IsStatusText.bare hstatus
      | cons piece more => simpa using IsStatusText.reasoned _ hstatus
    · cases h
  · intro h
    generalize line.toList = cs at h ⊢
    cases h with
    | bare hcode =>
      rw [List.splitOn_append_cons_self_of_not_mem version.no_space,
        List.splitOn_eq_singleton hcode.no_space]
      simp [Version.parse?_text, Status.parse?_eq_some_iff.2 hcode]
    | reasoned reason hcode =>
      rw [List.splitOn_append_cons_self_of_not_mem version.no_space,
        List.splitOn_append_cons_self_of_not_mem hcode.no_space]
      simp [Version.parse?_text, Status.parse?_eq_some_iff.2 hcode]

/-- A status line starts with the mark. -/
theorem mark_of_statusLine (h : parseStatusLine? line = some (version, status)) :
    mark <+: Bytes.ofString line := by
  have hname : mark <+: Bytes.ofString version.text := by cases version <;> decide
  obtain ⟨more, hmore⟩ : ∃ more, line.toList = version.text.toList ++ more := by
    rw [parseStatusLine?_eq_some_iff] at h
    generalize line.toList = cs at h
    cases h <;> exact ⟨_, rfl⟩
  refine hname.trans ⟨more.flatMap String.utf8EncodeChar, ?_⟩
  rw [Bytes.ofString, Bytes.ofString, hmore, List.flatMap_append]

/-! ## 4. Bytes at their places -/

/-- A byte was looked for behind the last one. -/
structure OutOfRange where
  place : Nat
deriving DecidableEq

/-- The byte at a place, which has to be there. -/
def byteAt (place : Nat) (bytes : Bytes) : Except OutOfRange UInt8 :=
  match bytes[place]? with
  | some b => .ok b
  | none => .error ⟨place⟩

namespace Version

/-- Reads the name of a version off the bytes of a text, the dot and the two digits each at its
place. -/
def readAt (bytes : Bytes) : Except OutOfRange (Option Version) :=
  if bytes.length ≠ 8 ∨ ¬ mark <+: bytes then .ok none
  else do
    if (← byteAt 6 bytes) ≠ 46 then return none
    let some major := Numeral.digit? 10 (Char.ofNat (← byteAt 5 bytes).toNat) | return none
    let some minor := Numeral.digit? 10 (Char.ofNat (← byteAt 7 bytes).toNat) | return none
    return ofNumbers? major minor

/-- The bytes of a name are its characters. -/
theorem chars_eq_text_iff {bytes : Bytes} {v : Version} :
    bytes.chars = v.text.toList ↔ bytes = Bytes.ofString v.text := by
  have hchars : Bytes.chars (Bytes.ofString v.text) = v.text.toList := by cases v <;> decide
  rw [← hchars]
  exact ⟨Bytes.chars_injective, congrArg Bytes.chars⟩

/-- Behind the mark, three bytes are read as one character each. -/
theorem readAt_mark (major dot minor : UInt8) :
    readAt (mark ++ [major, dot, minor]) =
      .ok (parse? (Bytes.chars (mark ++ [major, dot, minor]))) := by
  have hname : ¬ ((mark ++ [major, dot, minor]).length ≠ 8 ∨
      ¬ mark <+: mark ++ [major, dot, minor]) := by
    rw [not_or, not_not, not_not]
    exact ⟨rfl, List.prefix_append _ _⟩
  have hmajor : byteAt 5 (mark ++ [major, dot, minor]) = .ok major := rfl
  have hpoint : byteAt 6 (mark ++ [major, dot, minor]) = .ok dot := rfl
  have hminor : byteAt 7 (mark ++ [major, dot, minor]) = .ok minor := rfl
  have hchars : Bytes.chars (mark ++ [major, dot, minor]) =
      ['H', 'T', 'T', 'P', '/', Char.ofNat major.toNat, Char.ofNat dot.toNat,
        Char.ofNat minor.toNat] := rfl
  rw [readAt, if_neg hname, hmajor, hpoint, hminor, hchars]
  simp only [bind, Except.bind, pure, Except.pure]
  by_cases hdot : dot = 46
  · subst hdot
    have hread : parse? ['H', 'T', 'T', 'P', '/', Char.ofNat major.toNat, '.',
        Char.ofNat minor.toNat] =
        (Numeral.digit? 10 (Char.ofNat major.toNat)).bind fun m =>
          (Numeral.digit? 10 (Char.ofNat minor.toNat)).bind fun n => ofNumbers? m n := rfl
    rw [if_neg (not_not.2 rfl), show Char.ofNat (UInt8.toNat 46) = '.' from rfl, hread]
    cases Numeral.digit? 10 (Char.ofNat major.toNat) with
    | none => rfl
    | some m => cases Numeral.digit? 10 (Char.ofNat minor.toNat) <;> rfl
  · have hnone : parse? ['H', 'T', 'T', 'P', '/', Char.ofNat major.toNat,
        Char.ofNat dot.toNat, Char.ofNat minor.toNat] = none := by
      rw [Option.eq_none_iff_forall_ne_some]
      intro v hv
      rw [parse?_eq_some_iff, toList_text] at hv
      simp only [List.cons.injEq, true_and] at hv
      exact hdot (Bytes.char_injective hv.2.1)
    rw [if_pos hdot, hnone]

/-- **No byte is missed**, whatever the bytes are: those of another length are not looked at, and
the others are read as one character each. -/
theorem readAt_eq (bytes : Bytes) : readAt bytes = .ok (parse? bytes.chars) := by
  by_cases hname : bytes.length = 8 ∧ mark <+: bytes
  · obtain ⟨hlength, more, rfl⟩ := hname
    have hmark : mark.length = 5 := by decide
    obtain ⟨major, dot, minor, rfl⟩ : ∃ a b c, more = [a, b, c] := by
      rw [← List.length_eq_three]
      rw [List.length_append] at hlength
      omega
    exact readAt_mark major dot minor
  · have hnone : parse? bytes.chars = none := by
      rw [Option.eq_none_iff_forall_ne_some]
      intro v hv
      rw [parse?_eq_some_iff, chars_eq_text_iff] at hv
      apply hname
      rw [hv]
      cases v <;> decide
    rw [readAt, if_pos (Decidable.not_and_iff_not_or_not.1 hname), hnone]

/-- **The name of a version is read at its places as it is read by characters**, off the bytes of
any text. -/
theorem readAt_ofString (name : String) :
    readAt (Bytes.ofString name) = .ok (parse? name.toList) := by
  have hsame : parse? (Bytes.chars (Bytes.ofString name)) = parse? name.toList := by
    refine Option.ext fun v => ?_
    rw [parse?_eq_some_iff, parse?_eq_some_iff, chars_eq_text_iff, String.toList_inj]
    constructor
    · intro h
      have hback := congrArg Utf8.decode? h
      rw [Utf8.decode?_ofString, Utf8.decode?_ofString] at hback
      exact Option.some.inj hback
    · exact congrArg Bytes.ofString
  rw [readAt_eq, hsame]

/-- Eight bytes, of which the seventh is inside a character. -/
example : readAt (Bytes.ofString "HTTP/é1") = .ok none := by decide

end Version

/-- Reads a status line, the name of the version at its places. -/
def readStatusLine (line : String) : Except OutOfRange (Option (Version × Status)) :=
  match Text.splitAt ' ' line.toList with
  | [] => .ok none
  | name :: pieces => do
    let some version := ← Version.readAt (Bytes.ofString (String.ofList name)) | return none
    let code :: _ := pieces | return none
    return (Status.parse? code).map (version, ·)

/-- **No byte of a status line is missed**, and it is read as it is by characters. -/
theorem readStatusLine_eq (line : String) :
    readStatusLine line = .ok (parseStatusLine? line) := by
  unfold readStatusLine parseStatusLine?
  cases Text.splitAt ' ' line.toList with
  | nil => rfl
  | cons name pieces =>
    simp only [Version.readAt_ofString, String.toList_ofList, bind, Except.bind, pure, Except.pure]
    cases hversion : Version.parse? name with
    | none => cases pieces <;> simp [hversion]
    | some version =>
      cases pieces with
      | nil => rfl
      | cons code rest => cases hcode : Status.parse? code <;> simp [hversion, hcode]

/-! ## 5. The grammar -/

/-- **Status lines are read by their grammar**, and so are the names of versions in them: exactly
the five names, each as its version.  No text makes either of the two miss a byte. -/
theorem parseStatusLine?_grammar (line : String) :
    (∀ version status, parseStatusLine? line = some (version, status) ↔
      IsStatusText version status line.toList) ∧
    (∀ version, Version.parse? line.toList = some version ↔ line = version.text) ∧
    Version.readAt (Bytes.ofString line) = .ok (Version.parse? line.toList) ∧
    readStatusLine line = .ok (parseStatusLine? line) := by
  refine ⟨fun _ _ => parseStatusLine?_eq_some_iff, fun version => ?_,
    Version.readAt_ofString line, readStatusLine_eq line⟩
  rw [Version.parse?_eq_some_iff, String.toList_inj]

end Http

end UrlTransfer
