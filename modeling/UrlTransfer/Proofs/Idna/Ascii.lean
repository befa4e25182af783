/-
# The ASCII form of a domain is in ASCII

A label beyond ASCII is written with its ASCII characters and the digits of numbers, and digits are
letters or figures (`digit_ascii`).  So all that is ever added to the output of `Punycode.encode` is
in ASCII, and so is a domain that is put together from such labels (`toAscii?_ascii`).
-/
import UrlTransfer.Idna.Domain
import UrlTransfer.Proofs.Text.Graphic

namespace UrlTransfer

open Text (Ascii)

namespace Punycode

/-! ## 1. Labels -/

theorem digit_ascii : ∀ value < base, (digit value).toNat < 128 := by decide

/-- **A number is written in digits**, each of them below the base. -/
theorem ascii_digits (q k bias : Nat) : Ascii (digits q k bias) := by
  have hleast : 1 ≤ threshold k bias := by unfold threshold; omega
  have hmost : threshold k bias ≤ 26 := by unfold threshold; omega
  have hbase : base = 36 := rfl
  fun_induction digits q k bias with
  | case1 q k hless =>
    intro c hc
    rw [List.mem_singleton] at hc
    rw [hc]
    exact digit_ascii q (by omega)
  | case2 q k hmore ih =>
    intro c hc
    rcases List.mem_cons.1 hc with rfl | hc
    · have hmod := Nat.mod_lt (q - threshold k bias) (show 0 < base - threshold k bias by omega)
      exact digit_ascii _ (by omega)
    · have hleast' : 1 ≤ threshold (k + base) bias := by unfold threshold; omega
      have hmost' : threshold (k + base) bias ≤ 26 := by unfold threshold; omega
      exact ih hleast' hmost' c hc

theorem ascii_pass (m : Nat) {w : Writing} (h : Ascii w.output) (c : Char) :
    Ascii (w.pass m c).output := by
  unfold Writing.pass
  split
  · exact h
  · split
    · exact (ascii_digits _ _ _).reverse.append h
    · exact h

/-- No round adds anything but digits. -/
theorem ascii_rounds (cs : List Char) (points : List Nat) (n : Nat) {w : Writing}
    (h : Ascii w.output) : Ascii (rounds cs points n w).output := by
  have hpasses (m : Nat) (ds : List Char) {w : Writing} (hw : Ascii w.output) :
      Ascii (ds.foldl (Writing.pass m) w).output := by
    induction ds generalizing w with
    | nil => exact hw
    | cons d ds ih => exact ih (ascii_pass m hw d)
  induction points generalizing n w with
  | nil => exact h
  | cons m rest ih => exact ih _ (hpasses m cs h)

theorem ascii_encode (cs : List Char) : Ascii (encode cs) := by
  have hbasic : Ascii (cs.filter (·.toNat < 128)) := by
    intro c hc
    simpa using (List.mem_filter.1 hc).2
  have hhyphen : Ascii ['-'] := by decide
  refine (ascii_rounds _ _ _ ?_).reverse
  dsimp only
  split
  · nofun
  · exact (hbasic.append hhyphen).reverse

end Punycode

namespace Idna

/-! ## 2. Domains -/

/-- What a partial function has made of a list is what it has made of the members. -/
theorem mem_of_mapM {α β : Type} {f : α → Option β} {as : List α} {bs : List β}
    (h : as.mapM f = some bs) {b : β} (hb : b ∈ bs) : ∃ a ∈ as, f a = some b := by
  induction as generalizing bs with
  | nil =>
    rw [List.mapM_nil] at h
    cases h
    cases hb
  | cons a as ih =>
    rw [List.mapM_cons] at h
    simp only [Option.bind_eq_bind, Option.bind_eq_some_iff, Option.pure_def,
      Option.some.injEq] at h
    obtain ⟨first, hfirst, rest, hrest, rfl⟩ := h
    rcases List.mem_cons.1 hb with rfl | hb
    · exact ⟨a, List.mem_cons_self, hfirst⟩
    · obtain ⟨a', ha', hmade⟩ := ih hrest hb
      exact ⟨a', List.mem_cons_of_mem a ha', hmade⟩

theorem ascii_writeLabel? {label written : List Char} (h : writeLabel? label = some written) :
    Ascii written := by
  have hmark : Ascii mark := by decide
  unfold writeLabel? at h
  split at h
  · next hall =>
    cases h
    intro c hc
    simpa using List.all_eq_true.1 hall c hc
  · split at h
    · cases h
    · cases h
      exact hmark.append (Punycode.ascii_encode label)

/-- **What is written as a domain in ASCII is in ASCII.** -/
theorem toAscii?_ascii {domain written : List Char} (h : toAscii? domain = some written) :
    Ascii written := by
  unfold toAscii? at h
  simp only [Option.bind_eq_bind, Option.bind_eq_some_iff, Option.pure_def, Option.some.injEq] at h
  obtain ⟨labels, -, parts, hparts, rfl⟩ := h
  intro c hc
  rcases Text.mem_intercalate hc with hdot | ⟨part, hpart, hin⟩
  · rw [List.mem_singleton.1 hdot]
    decide
  · obtain ⟨label, -, hlabel⟩ := mem_of_mapM hparts hpart
    exact ascii_writeLabel? hlabel c hin

end Idna

end UrlTransfer
