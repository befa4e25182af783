/-
# What a URL is written with

A request names the path and the query of its URL in the first line, and the host and the port in a
header.  All of these are graphic texts when a URL with one of the special schemes was read
(`written_of_parse`), whatever the text was that it was read from: a byte of path or query that is
not graphic is percent-encoded (`graphic_encode`), a domain is brought into ASCII and refused if
something in it may not stand there (`graphic_parse`), and addresses and ports are numerals with
marks between.  A reference takes from its base nothing but graphic texts, so the URL that it stands
for is one more (`Reachable.join`).

The path has a segment at least, since a segment that no slash follows always leaves one
(`addSegments_ne_nil`).  So a request never has an empty target.
-/
import UrlTransfer.Proofs.Idna.Ascii
import UrlTransfer.Url.Reader

namespace UrlTransfer

open Text (IsGraphic Graphic graphic_ofList)

/-! ## 1. Percent-encoding -/

namespace Percent

/-- Every byte that is not graphic is encoded. -/
structure Covers (encoded : UInt8 → Bool) : Prop where
  controls : ∀ b, inControls b = true → encoded b = true
  blank : encoded 0x20 = true

theorem covers_inPath : Covers inPath where
  controls b h := by simp [inPath, inFragment, h]
  blank := by decide

theorem covers_inQuery (special : Bool) : Covers (inQuery special) where
  controls b h := by simp [inQuery, h]
  blank := by cases special <;> decide

theorem isGraphic_digit : ∀ n < 16, IsGraphic (digit n) := by decide

theorem isGraphic_encodeByte {encoded : UInt8 → Bool} (h : Covers encoded) {b : UInt8} {c : Char}
    (hc : c ∈ encodeByte encoded b) : IsGraphic c := by
  have hb := b.toNat_lt
  unfold encodeByte at hc
  split at hc
  · simp only [List.mem_cons, List.not_mem_nil, or_false] at hc
    rcases hc with rfl | rfl | rfl
    · decide
    · exact isGraphic_digit _ (by omega)
    · exact isGraphic_digit _ (by omega)
  · next hplain =>
    rw [List.mem_singleton] at hc
    rw [hc]
    have hcontrols : ¬ inControls b = true := fun hin => hplain (h.controls b hin)
    have hblank : b.toNat ≠ 0x20 := fun hin =>
      hplain ((UInt8.toNat_inj.1 hin : b = 0x20) ▸ h.blank)
    simp only [inControls, Bool.or_eq_true, decide_eq_true_eq, not_or, UInt8.lt_iff_toNat_lt,
      UInt8.le_iff_toNat_le, UInt8.reduceToNat] at hcontrols
    exact Text.isGraphic_ofNat (by omega)

/-- **An encoded text is graphic.** -/
theorem graphic_encode {encoded : UInt8 → Bool} (h : Covers encoded) (cs : List Char) :
    Graphic (String.ofList (encode encoded cs)) := by
  rw [graphic_ofList]
  intro c hc
  obtain ⟨b, -, hb⟩ := List.mem_flatMap.1 hc
  exact isGraphic_encodeByte h hb

end Percent

/-! ## 2. Hosts -/

theorem Ipv4.graphic_text (ip : Ipv4) : Graphic ip.text := by
  refine Graphic.intercalate (by decide) fun s hs => ?_
  obtain ⟨b, -, rfl⟩ := List.mem_map.1 hs
  exact Text.graphic_decimal _

theorem Ipv6.graphic_groupsText (groups : List UInt16) : Graphic (groupsText groups) := by
  refine Graphic.intercalate (by decide) fun s hs => ?_
  obtain ⟨g, -, rfl⟩ := List.mem_map.1 hs
  exact Text.graphic_hex _

theorem Ipv6.graphic_hexText (ip : Ipv6) : Graphic ip.hexText := by
  have hgap : Graphic "::" := by decide
  unfold hexText
  split
  · exact graphic_groupsText _
  · exact ((graphic_groupsText _).append hgap).append (graphic_groupsText _)

namespace Url

theorem Host.graphic_ipv6 (ip : Ipv6) : Graphic (Host.ipv6 ip).text := by
  have hopen : Graphic "[" := by decide
  have hclose : Graphic "]" := by decide
  exact (hopen.append ip.graphic_hexText).append hclose

/-- A character of ASCII that may stand in a domain leaves a mark. -/
theorem Host.isGraphic_of_allowed {c : Char} (hascii : c.toNat < 128)
    (hallowed : isForbidden c = false) : IsGraphic c := by
  simp only [isForbidden, Bool.or_eq_false_iff, decide_eq_false_iff_not,
    beq_eq_false_iff_ne] at hallowed
  obtain ⟨⟨hlow, hdelete⟩, -⟩ := hallowed
  exact ⟨by omega, by omega⟩

/-- **A host that was read is graphic.** -/
theorem Host.graphic_parse {cs : List Char} {host : Host} (h : parse cs = .ok host) :
    Graphic host.text := by
  unfold parse at h
  split at h
  · split at h
    · split at h
      · cases h
        exact graphic_ipv6 _
      · cases h
    · cases h
  · split at h
    · cases h
    · next ascii hascii =>
      obtain ⟨s, -, hwritten⟩ := Option.bind_eq_some_iff.1 hascii
      split at h
      · cases h
      · next hforbidden =>
        split at h
        · cases h
        · split at h
          · split at h
            · cases h
              exact Ipv4.graphic_text _
            · cases h
          · cases h
            refine graphic_ofList.2 fun c hc => ?_
            refine isGraphic_of_allowed (Idna.toAscii?_ascii hwritten c hc) ?_
            simpa using fun hin => hforbidden (List.any_eq_true.2 ⟨c, hc, hin⟩)

/-! ## 3. Paths -/

/-- The segments of a path that is being read are graphic. -/
def PathDraft.Written (draft : PathDraft) : Prop := ∀ s ∈ draft.segments, Graphic s

theorem written_parent {directories : List String} (h : ∀ s ∈ directories, Graphic s) :
    ∀ s ∈ parent directories, Graphic s := by
  unfold parent
  split
  · exact h
  · exact fun s hs => h s (List.mem_of_mem_tail hs)

/-- **A segment that is read leaves graphic segments.** -/
theorem written_addSegment {draft : PathDraft} (h : draft.Written) (segment : List Char)
    (last : Bool) : (addSegment false draft segment last).Written := by
  have hclose {segments : List String} (hsegments : ∀ s ∈ segments, Graphic s) :
      ∀ s ∈ (if last then "" :: segments else segments), Graphic s := by
    have hempty : Graphic "" := by decide
    split
    · exact List.forall_mem_cons.2 ⟨hempty, hsegments⟩
    · exact hsegments
  unfold addSegment
  dsimp only
  split
  · exact hclose (written_parent h)
  · split
    · exact hclose h
    · rw [if_neg (by simp)]
      exact List.forall_mem_cons.2 ⟨Percent.graphic_encode Percent.covers_inPath segment, h⟩

/-- The segment that no slash follows leaves one, and be it empty. -/
theorem addSegment_last_ne_nil (draft : PathDraft) (segment : List Char) :
    (addSegment false draft segment true).segments ≠ [] := by
  unfold addSegment
  dsimp only
  split
  · simp
  · split
    · simp
    · rw [if_neg (by simp)]
      simp

theorem written_addSegments {draft : PathDraft} (h : draft.Written) (segments : List (List Char)) :
    (addSegments false draft segments).Written := by
  fun_induction addSegments false draft segments with
  | case1 => exact h
  | case2 draft segment => exact written_addSegment h segment true
  | case3 draft segment rest hrest ih => exact ih (written_addSegment h segment false)

theorem addSegments_ne_nil (draft : PathDraft) {segments : List (List Char)} (h : segments ≠ []) :
    (addSegments false draft segments).segments ≠ [] := by
  fun_induction addSegments false draft segments with
  | case1 => exact absurd rfl h
  | case2 draft segment => exact addSegment_last_ne_nil draft segment
  | case3 draft segment rest hrest ih => exact ih (by simpa using hrest)

/-! ## 4. Targets -/

/-- What a request takes from a URL is graphic: the segments of the path, of which there is one at
least, the query, and the host. -/
structure Written (u : Url) : Prop where
  path : ∃ segments, u.path = .segments segments ∧ segments ≠ [] ∧ ∀ s ∈ segments, Graphic s
  query : ∀ q ∈ u.query, Graphic q
  host : ∃ host, u.host = some host ∧ Graphic host.text

theorem Written.graphic_target {u : Url} (h : u.Written) : Graphic u.target := by
  have hslash : Graphic "/" := by decide
  have hmark : Graphic "?" := by decide
  obtain ⟨segments, hpath, -, hsegments⟩ := h.path
  refine Graphic.append ?_ ?_
  · unfold pathText
    rw [hpath]
    refine Graphic.join fun s hs => ?_
    obtain ⟨segment, hsegment, rfl⟩ := List.mem_map.1 hs
    exact hslash.append (hsegments segment hsegment)
  · cases hquery : u.query with
    | none => nofun
    | some q => exact hmark.append (h.query q hquery)

/-- A target starts with a slash. -/
theorem Written.target_ne_empty {u : Url} (h : u.Written) : u.target ≠ "" := by
  obtain ⟨segments, hpath, hsome, -⟩ := h.path
  obtain ⟨first, rest, rfl⟩ := List.exists_cons_of_ne_nil hsome
  intro hempty
  have hlist := congrArg String.toList hempty
  unfold target pathText at hlist
  rw [hpath, String.toList_append, String.toList_join] at hlist
  simp at hlist

theorem Written.graphic_hostPortText {u : Url} (h : u.Written) : Graphic u.hostPortText := by
  have hcolon : Graphic ":" := by decide
  obtain ⟨host, hhost, hgraphic⟩ := h.host
  unfold hostPortText
  rw [hhost]
  refine Graphic.append hgraphic ?_
  cases u.port with
  | none => nofun
  | some port => exact hcolon.append (Text.graphic_decimal port)

/-! ## 5. Reading -/

/-- Query and fragment leave the other parts as they are. -/
theorem withQueryAndFragment_parts (u : Url) (cs : List Char) :
    (withQueryAndFragment u cs).scheme = u.scheme ∧ (withQueryAndFragment u cs).path = u.path ∧
      (withQueryAndFragment u cs).host = u.host := by
  unfold withQueryAndFragment
  split
  · dsimp only
    split <;> exact ⟨rfl, rfl, rfl⟩
  · exact ⟨rfl, rfl, rfl⟩
  · exact ⟨rfl, rfl, rfl⟩

theorem graphic_query {u : Url} (h : ∀ q ∈ u.query, Graphic q) (cs : List Char) :
    ∀ q ∈ (withQueryAndFragment u cs).query, Graphic q := by
  have hread (q : List Char) :
      ∀ text ∈ some (String.ofList (Percent.encode (Percent.inQuery (isSpecial u.scheme)) q)),
        Graphic text := by
    intro text htext
    cases htext
    exact Percent.graphic_encode (Percent.covers_inQuery _) q
  unfold withQueryAndFragment
  split
  · dsimp only
    split <;> exact hread _
  · exact h
  · exact h

/-- Path, query and fragment leave the scheme and the host as they are. -/
theorem withRest_parts (u : Url) (directories : List String) (cs : List Char) :
    (withRest u directories cs).scheme = u.scheme ∧
      (withRest u directories cs).host = u.host := by
  obtain ⟨hscheme, -, hhost⟩ := withQueryAndFragment_parts
    { u with path := .segments (extendPath u.scheme directories
        (cs.takeWhile (!endsPath ·))).1 } (cs.drop (cs.takeWhile (!endsPath ·)).length)
  exact ⟨hscheme, hhost⟩

/-- **A path that is read is graphic**, with a query behind it or without, and with directories
before it that are. -/
theorem written_withRest {u : Url} (hfile : (u.scheme == "file") = false) (hquery : u.query = none)
    {host : Host} (hhost : u.host = some host) (hgraphic : Graphic host.text)
    {directories : List String} (hdirectories : ∀ s ∈ directories, Graphic s) (cs : List Char) :
    (withRest u directories cs).Written := by
  have hdraft : PathDraft.Written ⟨directories.reverse, false⟩ :=
    fun s hs => hdirectories s (List.mem_reverse.1 hs)
  have hsplit := List.splitOnP_ne_nil (isSlash (isSpecial u.scheme)) (cs.takeWhile (!endsPath ·))
  have hpath := (withQueryAndFragment_parts
    { u with path := .segments (extendPath u.scheme directories (cs.takeWhile (!endsPath ·))).1 }
    (cs.drop (cs.takeWhile (!endsPath ·)).length)).2.1
  refine ⟨⟨_, hpath, ?_, ?_⟩, ?_, host, ?_, hgraphic⟩
  · unfold extendPath
    simp only [hfile, Bool.false_eq_true, if_false, ne_eq, List.reverse_eq_nil_iff]
    exact addSegments_ne_nil _ hsplit
  · unfold extendPath
    simp only [hfile, Bool.false_eq_true, if_false, List.mem_reverse]
    exact written_addSegments hdraft _
  · exact graphic_query (by simp [hquery]) _
  · rw [(withRest_parts u directories cs).2, hhost]

/-- The scheme stays that of the text. -/
theorem scheme_withPath (u : Url) (cs : List Char) : (withPath u cs).scheme = u.scheme := by
  unfold withPath
  dsimp only
  split
  · exact (withQueryAndFragment_parts u cs).1
  · exact (withRest_parts u [] _).1

/-- **Behind a host, what is read is graphic**, if the scheme is a special one. -/
theorem written_withPath {u : Url} (hspecial : isSpecial u.scheme = true)
    (hfile : (u.scheme == "file") = false) (hquery : u.query = none) {host : Host}
    (hhost : u.host = some host) (hgraphic : Graphic host.text) (cs : List Char) :
    (withPath u cs).Written := by
  unfold withPath
  dsimp only
  rw [hspecial, if_neg (by simp)]
  exact written_withRest hfile hquery hhost hgraphic (List.forall_mem_nil _) _

/-- What follows the slashes has a host, if the scheme is a special one. -/
theorem written_afterSlashes {scheme : String} {cs : List Char} {u : Url}
    (h : afterSlashes scheme cs = .ok u) :
    u.scheme = scheme ∧
      (isSpecial scheme = true → (scheme == "file") = false → u.Written) := by
  unfold afterSlashes at h
  simp only [bind, Except.bind, pure, Except.pure, throw, throwThe, MonadExceptOf.throw] at h
  split at h
  · cases h
  split at h
  · cases h
  next hempty =>
  split at h
  · next hspecial =>
    split at h
    · cases h
    next host hparse =>
    split at h
    · cases h
    split at h
    · cases h
    split at h
    · next hnone => exact absurd (Bool.and_eq_true_iff.2 ⟨hspecial, hnone⟩) hempty
    cases h
    refine ⟨scheme_withPath _ _, fun _ hfile => ?_⟩
    exact written_withPath hspecial hfile rfl rfl (Host.graphic_parse hparse) _
  · next hother =>
    refine ⟨?_, fun hspecial => absurd hspecial hother⟩
    split at h
    · cases h
    split at h
    · cases h
    split at h
    · cases h
    split at h
    · split at h
      · cases h
        exact scheme_withPath _ _
      · cases h
    · cases h
      exact scheme_withPath _ _

/-- The URL of a file has the scheme of one. -/
theorem scheme_ofFile {cs : List Char} {u : Url} (h : ofFile none cs = .ok u) :
    u.scheme = "file" := by
  have hrest {v : Url} (hv : v.scheme = "file") (ds : List Char) :
      (withRest v [] ds).scheme = "file" :=
    (withRest_parts v [] ds).1.trans hv
  unfold ofFile at h
  dsimp only at h
  split at h
  · split at h
    · unfold afterFileSlashes at h
      simp only [bind, Except.bind, pure, Except.pure] at h
      split at h
      · cases h
        exact hrest rfl _
      split at h
      · cases h
      split at h
      · cases h
        exact hrest rfl _
      cases h
      split
      · exact hrest (v := { scheme := "file", host := some _ }) rfl _
      · exact hrest rfl _
    · cases h
      exact hrest rfl _
  · cases h
    exact hrest rfl _

/-- A URL that is asked for at a host by a special scheme, and can be the base of another. -/
structure Reachable (u : Url) : Prop where
  written : u.Written
  special : isSpecial u.scheme = true
  noFile : u.scheme ≠ "file"

theorem Reachable.beq_file {u : Url} (h : u.Reachable) : (u.scheme == "file") = false := by
  simpa using h.noFile

/-- What is read behind the path of such a URL leaves one. -/
theorem Written.withQueryAndFragment {u : Url} (h : u.Written) (cs : List Char) :
    (withQueryAndFragment u cs).Written := by
  obtain ⟨-, hpath, hhost⟩ := withQueryAndFragment_parts u cs
  exact ⟨by rw [hpath]; exact h.path, graphic_query h.query cs, by rw [hhost]; exact h.host⟩

/-- **A reference stands for a URL that is graphic**, if its base is. -/
theorem written_ofReference {base u : Url} (hbase : base.Reachable) {cs : List Char}
    (h : ofReference base cs = .ok u) : u.Written := by
  obtain ⟨segments, hpath, hsome, hsegments⟩ := hbase.written.path
  obtain ⟨host, hhost, hgraphic⟩ := hbase.written.host
  have hbare : Written { base with query := none, fragment := none } :=
    ⟨hbase.written.path, nofun, hbase.written.host⟩
  have hrest {directories : List String} (hdirectories : ∀ s ∈ directories, Graphic s)
      (cs : List Char) :
      (withRest { base with query := none, fragment := none } directories cs).Written :=
    written_withRest (u := { base with query := none, fragment := none }) hbase.beq_file rfl hhost
      hgraphic hdirectories cs
  have hslashes {cs : List Char} (hafter : afterSlashes base.scheme cs = .ok u) : u.Written :=
    (written_afterSlashes hafter).2 hbase.special hbase.beq_file
  have hdirectories : ∀ s ∈ directoriesOf false base.path, Graphic s := by
    rw [hpath]
    exact fun s hs => hsegments s (List.dropLast_subset _ hs)
  unfold ofReference at h
  dsimp only at h
  split at h
  · cases h
    exact ⟨hbase.written.path, hbase.written.query, hbase.written.host⟩
  · cases h
    exact hbare.withQueryAndFragment _
  · cases h
    exact hbase.written.withQueryAndFragment _
  · exact hslashes h
  · split at h
    · split at h
      · exact hslashes h
      · cases h
        exact hrest (List.forall_mem_nil _) _
    · cases h
      exact hrest hdirectories _

/-- **A URL with a special scheme that is no file's is graphic**, whatever it was read from. -/
theorem written_of_parseWith {base : Option Url} (hbase : ∀ b ∈ base, b.Reachable) {text : String}
    {u : Url} (h : parseWith base text = .ok u) (hspecial : isSpecial u.scheme = true)
    (hfile : u.scheme ≠ "file") : u.Written := by
  have hother : (u.scheme == "file") = false := by simpa using hfile
  unfold parseWith at h
  dsimp only at h
  split at h
  · next scheme rest hsplit =>
    unfold afterScheme at h
    dsimp only at h
    split at h
    · have hnone : base.filter (·.scheme == "file") = none :=
        Option.filter_eq_none_iff.2 fun b hb => by
          rw [(hbase b hb).beq_file]
          exact Bool.false_ne_true
      rw [hnone] at h
      exact absurd (scheme_ofFile h) hfile
    split at h
    · have hafter {cs : List Char} (hslashes : afterSlashes scheme cs = .ok u) : u.Written := by
        obtain ⟨rfl, hwritten⟩ := written_afterSlashes hslashes
        exact hwritten hspecial hother
      split at h
      · next b =>
        split at h
        · exact written_ofReference (hbase b rfl) h
        · exact hafter h
      · exact hafter h
    next hplain =>
    -- No other scheme is a special one.
    have hsame : u.scheme = scheme := by
      split at h
      · exact (written_afterSlashes h).1
      · cases h
        exact (withRest_parts _ [] _).1
      · cases h
        exact (withQueryAndFragment_parts _ _).1
    rw [hsame] at hspecial
    exact absurd hspecial hplain
  · split at h
    · cases h
    · next b =>
      have hb := hbase b rfl
      obtain ⟨segments, hpath, -⟩ := hb.written.path
      rw [hpath, hb.beq_file] at h
      exact written_ofReference hb h

theorem written_of_parse {text : String} {u : Url} (h : parse text = .ok u)
    (hspecial : isSpecial u.scheme = true) (hfile : u.scheme ≠ "file") : u.Written :=
  written_of_parseWith (fun _ hb => by cases hb) h hspecial hfile

/-- A URL that was read can be asked for at a host, if its scheme is one to ask for there. -/
theorem reachable_of_parse {text : String} {u : Url} (h : parse text = .ok u)
    (hspecial : isSpecial u.scheme = true) (hfile : u.scheme ≠ "file") : u.Reachable :=
  ⟨written_of_parse h hspecial hfile, hspecial, hfile⟩

/-- **A reference from such a URL leads to another**, if that has a scheme of this kind too. -/
theorem Reachable.join {base u : Url} (hbase : base.Reachable) {text : String}
    (h : base.join text = .ok u) (hspecial : isSpecial u.scheme = true)
    (hfile : u.scheme ≠ "file") : u.Reachable :=
  ⟨written_of_parseWith (fun _ hb => by cases hb; exact hbase) h hspecial hfile, hspecial, hfile⟩

end Url

end UrlTransfer
