/-
# The head of a request is read back

What a request puts into its head comes from different hands: the method and the headers from the
caller, the URL from a caller or from a server, and some headers from the payload.  Whoever reads
the head off a connection splits it at line ends, blanks and colons.  None of these can be in a
method, in the path and query of a URL, or in the name of a header, and no line end in a value.  So
the head is read as what was put into it (`head_read_back`): nothing can end it early, or add a
header to it, and what stands behind it is left.

A value may hold anything else, also colons, blanks inside, and characters beyond ASCII; only blanks
around it would be lost (`IsSendable`).  The path and query of a URL are graphic when it was read
from a text (`reachable_of_target`), and wherever a request for it is led
(`graphic_target_of_visit`).
-/
import UrlTransfer.Proofs.Http.HostHeader
import UrlTransfer.Proofs.Http.Redirections
import UrlTransfer.Proofs.Http.Writing
import UrlTransfer.Proofs.Url.Graphic

namespace UrlTransfer

namespace Http

open Text (Graphic)

/-! ## 1. Fields as texts -/

/-- A header that can be sent, to someone whose buffer has so many bytes: its name is one, in small
letters, its value is a text that is read as it is, and its line fits into the buffer. -/
structure IsSendable (capacity : Nat) (p : HeaderName × HeaderValue) : Prop where
  isName : HeaderName.parse? p.1.text = some p.1
  isValue : ∃ text, p.2 = .ofText text ∧ IsValue text
  fits : (Headers.lines [p]).length ≤ capacity

/-- A header with these texts. -/
def headerOf (p : String × String) : HeaderName × HeaderValue := (⟨p.1⟩, .ofText p.2)

/-- Headers that can be sent are texts that can be written. -/
theorem exists_written {capacity : Nat} {fields : List (HeaderName × HeaderValue)}
    (h : ∀ p ∈ fields, IsSendable capacity p) :
    ∃ written : List (String × String), fields = written.map headerOf ∧
      (∀ p ∈ written, IsWritten capacity p) ∧
      fields = written.map fun p => (nameOf p.1, .ofText p.2) := by
  induction fields with
  | nil => exact ⟨[], rfl, List.forall_mem_nil _, rfl⟩
  | cons field rest ih =>
    obtain ⟨hfield, hrest⟩ := List.forall_mem_cons.1 h
    obtain ⟨written, htexts, hwritten, hnames⟩ := ih hrest
    obtain ⟨⟨name⟩, value⟩ := field
    obtain ⟨hname, ⟨text, hvalue, hisValue⟩, hfits⟩ := hfield
    have hvalue' : value = .ofText text := hvalue
    subst hvalue'
    have hisName : IsName name := by
      unfold IsName
      rw [show HeaderName.parse? name = some ⟨name⟩ from hname]
      rfl
    have hsame : nameOf name = ⟨name⟩ := Option.some.inj (hisName.parse?.symm.trans hname)
    have hline := lines_eq [(name, text)]
    rw [List.map_singleton, List.flatMap_singleton] at hline
    refine ⟨(name, text) :: written, by rw [List.map_cons, ← htexts]; rfl,
      List.forall_mem_cons.2 ⟨⟨hisName, hisValue, by rw [← hline]; exact hfits⟩, hwritten⟩, ?_⟩
    rw [List.map_cons, ← hnames, hsame]

/-- The headers that are read are those that were sent: the same names, and for each name the same
values in the same order. -/
theorem received_fields {written : List (String × String)}
    {fields : List (HeaderName × HeaderValue)}
    (h : fields = written.map fun p => (nameOf p.1, .ofText p.2)) (name : HeaderName) :
    (name ∈ (addFields .empty (written.map fun p => fieldOf p.1 p.2)).entries.map Prod.fst ↔
        name ∈ fields.map Prod.fst) ∧
      (addFields .empty (written.map fun p => fieldOf p.1 p.2)).values name =
        valuesOf name fields := by
  have hnone : Headers.empty.entries.map Prod.fst = [] := rfl
  have hempty : Headers.empty.values name = [] := rfl
  constructor
  · rw [mem_names_addFields, hnone, h, List.map_map, List.map_map]
    exact ⟨fun hin => hin.resolve_left List.not_mem_nil, .inr⟩
  · unfold valuesOf
    rw [values_addFields, hempty, List.nil_append, h, List.filter_map, List.filter_map,
      List.map_map, List.map_map]
    rfl

/-- The lines of fields take no more than the lines do. -/
theorem fieldsSize_written (written : List (String × String)) :
    fieldsSize (written.map fun p => fieldOf p.1 p.2) =
      (written.flatMap fun p => fieldLine p.1 p.2).length := by
  unfold fieldsSize
  rw [List.length_flatMap, List.map_map]
  rfl

/-! ## 2. First lines -/

/-- The first line of a request. -/
def requestLine (method : Method) (url : Url) : String :=
  method.text ++ " " ++ url.target ++ " " ++ Version.http11.text

/-- A method is graphic. -/
theorem graphic_method {method : Method} (h : Method.parse? method.text = some method) :
    Graphic method.text := by
  unfold Method.parse? at h
  split at h
  · cases h
  · next hchars =>
    simp only [Bool.or_eq_true, not_or, Bool.not_eq_true', Bool.not_eq_false,
      List.all_eq_true] at hchars
    exact fun c hc => (isGraphic_of_isTokenChar (hchars.2 c hc)).1

/-- A text of which the URL has one of some schemes, all of them to ask for at a host, stands for
such a URL. -/
theorem reachable_of_target {allowed : String → Bool} {text : String} {url : Url}
    (hallowed : ∀ scheme, allowed scheme = true →
      Url.isSpecial scheme = true ∧ scheme ≠ "file")
    (h : (Target.parse allowed text).state = .ok url) : url.Reachable := by
  unfold Target.parse at h
  split at h
  · cases h
  · next hparse =>
    split at h
    · next hscheme =>
      cases h
      obtain ⟨hspecial, hfile⟩ := hallowed _ hscheme
      exact Url.reachable_of_parse hparse hspecial hfile
    · cases h

/-- A request that was made for a URL to ask for at a host is led to such URLs only, whatever
locations are sent to it. -/
theorem reachable_of_visit {s : Running}
    (h : ∀ url, s.1.target.state = .ok url → url.Reachable) {v : Visit} (hv : v ∈ visits s) :
    v.url.Reachable := by
  refine forall_visits (P := fun v => v.url.Reachable) h ?_ v hv
  intro url v w htarget hleads hbase
  obtain ⟨_, _, _, text, _, _, _, hjoin, hscheme⟩ := hleads.points
  obtain ⟨-, hspecial, hfile⟩ := h url htarget
  rw [← hscheme] at hspecial hfile
  exact hbase.join hjoin hspecial hfile

/-- **Wherever a request is led, the path and query are graphic.** -/
theorem graphic_target_of_visit {s : Running}
    (h : ∀ url, s.1.target.state = .ok url → url.Reachable) {v : Visit} (hv : v ∈ visits s) :
    Graphic v.url.target :=
  (reachable_of_visit h hv).written.graphic_target

section

variable {method : Method} {url : Url} (hmethod : Method.parse? method.text = some method)
  (hurl : Graphic url.target)

include hmethod hurl

theorem isLine_requestLine : IsLine (textLine (requestLine method url)) := by
  have hblank : Text.Printed " " := by decide
  have hversion : Graphic Version.http11.text := by decide
  exact isLine_textLine (((((graphic_method hmethod).printed.append hblank).append
    hurl.printed).append hblank).append hversion.printed)

/-- **The words of a first line are told apart.** -/
theorem pieces_requestLine :
    Text.pieces ' ' (requestLine method url) = [method.text, url.target, "HTTP/1.1"] := by
  have hversion : Graphic "HTTP/1.1" := by decide
  have hwords : requestLine method url =
      " ".intercalate [method.text, url.target, "HTTP/1.1"] := by
    unfold requestLine
    rw [← String.toList_inj]
    simp [Version.text]
  rw [hwords]
  exact Text.pieces_intercalate (List.cons_ne_nil _ _)
    (by simp [graphic_method hmethod, hurl, hversion])

end

/-! ## 3. Heads -/

/-- **The head of a request is read back**, and what stands behind it is left, in whatever pieces
the two arrive: its first line has the method, the path and query of the URL, and the version for
words, and the headers that are read are those that were sent. -/
theorem head_read_back {method : Method} {url : Url} {headers : Headers}
    {extra : List (HeaderName × HeaderValue)} {r : Reader} {rest : Bytes} {limit : Nat}
    (hmethod : Method.parse? method.text = some method) (hurl : Graphic url.target)
    (hfields : ∀ p ∈ headers.toList ++ extra, IsSendable r.capacity p)
    (hline : (textLine (requestLine method url)).length ≤ r.capacity)
    (hlimit : (requestHead method url (headers.toList ++ extra)).length ≤ limit)
    (hfits : r.Fits) (hahead : r.ahead = requestHead method url (headers.toList ++ extra) ++ rest) :
    ∃ line size q received r', takeLine r = .ok (line, size) q ∧
      Text.pieces ' ' line = [method.text, url.target, "HTTP/1.1"] ∧
      takeHeaders limit q = .ok received r' ∧ r'.ahead = rest ∧
      ∀ name, (name ∈ received.entries.map Prod.fst ↔
          name ∈ (headers.toList ++ extra).map Prod.fst) ∧
        received.values name = valuesOf name (headers.toList ++ extra) := by
  obtain ⟨written, htexts, hwritten, hnames⟩ := exists_written hfields
  have hhead : requestHead method url (headers.toList ++ extra) =
      textLine (requestLine method url) ++
        (written.flatMap (fun p => fieldLine p.1 p.2) ++ Bytes.crlf) := by
    have hlines : Headers.lines (headers.toList ++ extra) =
        written.flatMap fun p => fieldLine p.1 p.2 := by
      rw [htexts]
      exact lines_eq written
    unfold requestHead
    rw [hlines, List.append_assoc]
    rfl
  have hroom : 2 ≤ r.capacity := by
    unfold textLine at hline
    rw [List.length_append] at hline
    exact Nat.le_trans (Nat.le_add_left 2 _) hline
  have hblock := headerLines_fieldLines hroom hwritten
  rw [hhead, List.append_assoc] at hahead
  rw [hhead, List.length_append, List.length_append, ← fieldsSize_written] at hlimit
  obtain ⟨q, hpeek, hbehind, hahead'⟩ := peekLine_of_line hfits hahead
    (isLine_requestLine hmethod hurl) hline (lineText?_textLine _)
  rw [← hbehind.capacity] at hblock
  have hsize : fieldsSize (written.map fun p => fieldOf p.1 p.2) ≤ limit := by omega
  obtain ⟨r', htake, hrest⟩ := takeHeaders_of_block hblock hsize hbehind.fits hahead'
  exact ⟨_, _, _, _, r', takeLine_ok.2 ⟨q, hpeek, rfl⟩, pieces_requestLine hmethod hurl, htake,
    hrest, received_fields hnames⟩

/-- A header with a colon, a blank and a letter beyond ASCII in its value. -/
def oddField : HeaderName × HeaderValue := (⟨"x-note"⟩, .ofText "a: b ä")

/-- A head with that header, in two pieces, and one byte more. -/
def oddReader : Reader :=
  .ofInflow ⟨[(requestHead .get home [oddField]).take 7,
    (requestHead .get home [oddField]).drop 7 ++ [88]], .eof⟩

/-- The value is read as it was sent, and the byte is left. -/
theorem head_read_back_odd : (∀ p ∈ [oddField], IsSendable oddReader.capacity p) ∧
    ∃ line size q received r', takeLine oddReader = .ok (line, size) q ∧
      Text.pieces ' ' line = ["GET", home.target, "HTTP/1.1"] ∧
      takeHeaders 1000 q = .ok received r' ∧ r'.ahead = [88] ∧
      received.values ⟨"x-note"⟩ = [.ofText "a: b ä"] := by
  have hsendable : ∀ p ∈ [oddField], IsSendable oddReader.capacity p :=
    List.forall_mem_singleton.2
      ⟨by decide +kernel, ⟨_, rfl, by decide +kernel, by decide +kernel⟩, by decide +kernel⟩
  have hahead : oddReader.ahead = requestHead .get home [oddField] ++ [88] := by decide +kernel
  have hhead := @head_read_back .get home .empty [oddField] oddReader [88] 1000 (by decide)
    (by decide) hsendable (by decide +kernel) (by decide +kernel) (Reader.fits_ofInflow _) hahead
  obtain ⟨line, size, q, received, r', hline, hwords, hfields, hrest, hreceived⟩ := hhead
  exact ⟨hsendable, line, size, q, received, r', hline, hwords, hfields, hrest,
    (hreceived ⟨"x-note"⟩).2⟩

end Http

end UrlTransfer
