import Scaffold.Page.Look
import Scaffold.Proofs.Respelling.KeywordFree
import Scaffold.Text.Space

/-!
# The texts of a page

What stands in a page beside its tags: plain texts, which hold no sign that means something to the
markup around them, class lists, to which dark mode adds classes at the end, and texts that show the
name of the application. A literal is checked as the list of its characters (`Plain.lit`).
-/

namespace Scaffold

open Text

/-! ### Plain texts -/

/-- The signs by which tags, values, comments and lines are told: the quote, the angle brackets, the
equals sign, the braces and the line ends. -/
def markupSigns : List Nat := [0x22, 0x3C, 0x3E, 0x3D, 0x7B, 0x7D, 0xA, 0xD]

def isPlainChar (c : Char) : Bool := !markupSigns.contains c.toNat

def Plain (s : String) : Prop := ∀ c ∈ s.toList, isPlainChar c = true

/-- Every keyword has a sign. -/
theorem keywordFree_of_plain {cs : List Char} (h : ∀ c ∈ cs, isPlainChar c = true) :
    KeywordFree htmlSpellings cs := by
  have hsign : ∀ r ∈ htmlSpellings, r.keyword.toList.all isPlainChar = false := by decide
  intro r hr hin
  have hplain : r.keyword.toList.all isPlainChar = true :=
    List.all_eq_true.mpr fun c hc => h c (hin.subset hc)
  rw [hsign r hr] at hplain
  cases hplain

namespace Plain

variable {s t : String}

theorem lit {cs : List Char} (h : cs.all isPlainChar = true) : Plain (String.ofList cs) := by
  rw [Plain, String.toList_ofList]
  exact List.all_eq_true.mp h

theorem append (hs : Plain s) (ht : Plain t) : Plain (s ++ t) := by
  intro c hc
  rw [String.toList_append, List.mem_append] at hc
  exact hc.elim (hs c) (ht c)

theorem ite {p : Prop} [Decidable p] (hs : Plain s) (ht : Plain t) :
    Plain (if p then s else t) := by
  split
  · exact hs
  · exact ht

theorem trimEnd (hs : Plain s) : Plain (String.ofList (Text.trimEnd s.toList)) := by
  intro c hc
  rw [String.toList_ofList, Text.trimEnd, List.mem_reverse] at hc
  exact hs c (List.mem_reverse.mp ((List.dropWhile_suffix _).subset hc))

end Plain

/-! ### Class lists -/

/-- The characters of a class name: letters, digits, hyphens and colons. -/
def isClassChar (c : Char) : Bool := c.isAlphanum || c == '-' || c == ':'

theorem isPlainChar_of_isClassChar {c : Char} (h : isClassChar c = true) :
    isPlainChar c = true := by
  have hsigns : ∀ n ∈ markupSigns, isClassChar (Char.ofNat n) = false := by decide
  rw [isPlainChar, Bool.not_eq_true', ← Bool.not_eq_true, List.contains_iff_mem]
  intro hsign
  have hno := hsigns c.toNat hsign
  rw [Char.ofNat_toNat, h] at hno
  cases hno

/-- The name of a class for dark mode. -/
def isDarkClass (name : List Char) : Bool :=
  ['d', 'a', 'r', 'k', ':'].isPrefixOf name && name.all isClassChar

/-- One or more classes for dark mode, each behind a blank. -/
def IsDarkRun (run : List Char) : Prop :=
  ∃ names : List (List Char), names ≠ [] ∧ (∀ name ∈ names, isDarkClass name = true) ∧
    run = names.flatMap (' ' :: ·)

theorem IsDarkRun.eq_blank_or_isClassChar {run : List Char} (h : IsDarkRun run) :
    ∀ c ∈ run, c = ' ' ∨ isClassChar c = true := by
  obtain ⟨names, -, hnames, rfl⟩ := h
  intro c hc
  obtain ⟨name, hname, hmem⟩ := List.mem_flatMap.mp hc
  have hdark := hnames name hname
  rw [isDarkClass, Bool.and_eq_true] at hdark
  exact (List.mem_cons.mp hmem).imp_right (List.all_eq_true.mp hdark.2 c)

theorem IsDarkRun.plain {run : List Char} (h : IsDarkRun run) :
    ∀ c ∈ run, isPlainChar c = true := by
  intro c hc
  rcases h.eq_blank_or_isClassChar c hc with rfl | hclass
  · decide
  · exact isPlainChar_of_isClassChar hclass

/-- The words between single blanks. -/
theorem splitOn_blank (cs : List Char) :
    (splitOn (· == ' ') cs).flatMap (' ' :: ·) = ' ' :: cs := by
  induction cs with
  | nil => rfl
  | cons c rest ih =>
    rw [splitOn]
    cases hsplit : splitOn (· == ' ') rest with
    | nil => exact absurd hsplit (splitOn_ne_nil _ rest)
    | cons piece more =>
      have hrest : piece ++ more.flatMap (' ' :: ·) = rest := by simpa [hsplit] using ih
      by_cases hc : c = ' ' <;> simp [hc, hrest]

/-- The classes for dark mode of an element, as its page writes them. -/
def DarkList (s : String) : Prop := IsDarkRun (' ' :: s.toList)

theorem DarkList.lit {cs : List Char}
    (h : (splitOn (· == ' ') cs).all isDarkClass = true) :
    DarkList (String.ofList cs) := by
  rw [DarkList, String.toList_ofList]
  exact ⟨_, splitOn_ne_nil _ cs, List.all_eq_true.mp h, (splitOn_blank cs).symm⟩

theorem toList_classes (look : Look) (base dark : String) :
    (look.classes base dark).toList =
      base.toList ++ if look.darkMode then ' ' :: dark.toList else [] := by
  rw [Look.classes]
  split <;> simp

/-- A class list to which dark mode adds dark classes at the end, if anything. -/
def ThemedClasses (v : Look → String) : Prop :=
  ∃ (base : String) (run : List Char), Plain base ∧ (run = [] ∨ IsDarkRun run) ∧
    ∀ look, (v look).toList = base.toList ++ if look.darkMode then run else []

namespace ThemedClasses

variable {v w : Look → String} {s t : String}

theorem fixed (hs : Plain s) : ThemedClasses fun _ => s :=
  ⟨s, [], hs, .inl rfl, by simp⟩

theorem lit {cs : List Char} (h : cs.all isPlainChar = true) :
    ThemedClasses fun _ => String.ofList cs :=
  fixed (.lit h)

theorem look (hs : Plain s) (ht : DarkList t) : ThemedClasses fun look => look.classes s t :=
  ⟨s, ' ' :: t.toList, hs, .inr ht, fun look => toList_classes look s t⟩

theorem lead (hs : Plain s) (hv : ThemedClasses v) : ThemedClasses fun look => s ++ v look := by
  obtain ⟨base, run, hbase, hrun, heq⟩ := hv
  exact ⟨s ++ base, run, hs.append hbase, hrun, fun look => by simp [heq]⟩

theorem ite {p : Prop} [Decidable p] (hv : ThemedClasses v) (hw : ThemedClasses w) :
    ThemedClasses fun look => if p then v look else w look := by
  by_cases hp : p
  · simpa [hp] using hv
  · simpa [hp] using hw

theorem plain (hv : ThemedClasses v) (look : Look) : Plain (v look) := by
  obtain ⟨base, run, hbase, hrun, heq⟩ := hv
  intro c hc
  rw [heq, List.mem_append] at hc
  rcases hc with hc | hc
  · exact hbase c hc
  · rcases hrun with rfl | hrun
    · simp at hc
    · split at hc
      · exact hrun.plain c hc
      · simp at hc

end ThemedClasses

/-! ### The name of the application -/

/-- A text that depends on the look by the name of the application alone. -/
def ShowsName (content : Look → String) : Prop :=
  ∀ look look', look.appName = look'.appName → content look = content look'

/-- A text that brings no keyword to the name it shows. -/
structure KeepsNeutral (content : Look → String) : Prop where
  showsName : ShowsName content
  keywordFree : ∀ look, KeywordFree htmlSpellings look.appName.toList →
    KeywordFree htmlSpellings (content look).toList

/-- A sign that no keyword contains. -/
def Parts (c : Char) : Prop := ∀ r ∈ htmlSpellings, c ∉ r.keyword.toList

instance : DecidablePred Parts := fun c =>
  inferInstanceAs (Decidable (∀ r ∈ htmlSpellings, c ∉ r.keyword.toList))

theorem KeywordFree.append_cons {u v : List Char} {c : Char} (hu : KeywordFree htmlSpellings u)
    (hc : Parts c) (hv : KeywordFree htmlSpellings v) :
    KeywordFree htmlSpellings (u ++ c :: v) := by
  intro r hr hin
  rcases infix_append_cons (htmlSpellings_orderly.keyword_ne_nil r hr) (hc r hr) hin with h | h
  · exact hu r hr h
  · exact hv r hr h

/-- A text that is parted from what follows by its last character. -/
def Leads (s : String) : Prop :=
  ∃ front c, s.toList = front ++ [c] ∧ (∀ d ∈ front, isPlainChar d = true) ∧ Parts c

/-- A text that is parted from what it follows by its first character. -/
def Trails (s : String) : Prop :=
  ∃ c back, s.toList = c :: back ∧ Parts c ∧ ∀ d ∈ back, isPlainChar d = true

theorem Leads.lit {cs : List Char}
    (h : (cs.dropLast.all isPlainChar && cs.getLast?.any (Parts ·)) = true) :
    Leads (String.ofList cs) := by
  obtain ⟨hfront, hlast⟩ := Bool.and_eq_true_iff.mp h
  cases hc : cs.getLast? with
  | none => simp [hc] at hlast
  | some c =>
    refine ⟨cs.dropLast, c, ?_, List.all_eq_true.mp hfront, by simpa [hc] using hlast⟩
    rw [String.toList_ofList, List.dropLast_append_getLast? c hc]

theorem Trails.lit {c : Char} {back : List Char}
    (h : (decide (Parts c) && back.all isPlainChar) = true) :
    Trails (String.ofList (c :: back)) := by
  obtain ⟨hc, hback⟩ := Bool.and_eq_true_iff.mp h
  exact ⟨c, back, String.toList_ofList, of_decide_eq_true hc, List.all_eq_true.mp hback⟩

namespace KeepsNeutral

variable {f : Look → String} {s : String}

theorem fixed (hs : Plain s) : KeepsNeutral fun _ => s where
  showsName _ _ _ := rfl
  keywordFree _ _ := keywordFree_of_plain hs

theorem lit {cs : List Char} (h : cs.all isPlainChar = true) :
    KeepsNeutral fun _ => String.ofList cs :=
  fixed (.lit h)

theorem appName : KeepsNeutral fun look => look.appName where
  showsName _ _ h := h
  keywordFree _ h := h

theorem lead (hs : Leads s) (hf : KeepsNeutral f) : KeepsNeutral fun look => s ++ f look where
  showsName look look' h := congrArg (s ++ ·) (hf.showsName look look' h)
  keywordFree look h := by
    obtain ⟨front, c, heq, hfront, hc⟩ := hs
    have hwhole := (keywordFree_of_plain hfront).append_cons hc (hf.keywordFree look h)
    simpa [heq] using hwhole

theorem trail (hf : KeepsNeutral f) (hs : Trails s) : KeepsNeutral fun look => f look ++ s where
  showsName look look' h := congrArg (· ++ s) (hf.showsName look look' h)
  keywordFree look h := by
    obtain ⟨c, back, heq, hc, hback⟩ := hs
    have hwhole := (hf.keywordFree look h).append_cons hc (keywordFree_of_plain hback)
    simpa [heq] using hwhole

end KeepsNeutral

end Scaffold
