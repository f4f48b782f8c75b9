import Scaffold.Text.Table.Combining

/-!
# Grapheme clusters

What a reader takes for one character may be several: a letter with its marks, a carriage return
with its line feed, joined pictographs, a syllable of Hangul. `clusters` cuts a text between them,
by the extended rules of Unicode less the one for conjunct consonants, which join letters without
case only.
-/

namespace Scaffold.Text

/-- How a character behaves at the border of a cluster. -/
inductive Joint where
  | carriageReturn | lineFeed | breaking
  | extending | joiner | spacing | prepended | regional
  | leadingJamo | vowelJamo | trailingJamo | openSyllable | closedSyllable
  | plain
  deriving DecidableEq, Repr

def regionalIndicators : Ranges := [(0x1F1E6, 0x1F1FF)]

def emojiModifiers : Ranges := [(0x1F3FB, 0x1F3FF)]

def leadingConsonants : Ranges := [(0x1100, 0x115F), (0xA960, 0xA97C)]

def jamoVowels : Ranges := [(0x1160, 0x11A7), (0xD7B0, 0xD7C6)]

def trailingConsonants : Ranges := [(0x11A8, 0x11FF), (0xD7CB, 0xD7FB)]

def hangulSyllables : Ranges := [(0xAC00, 0xD7A3)]

def isPictographic (c : Char) : Bool := Table.pictographic.has c

def Joint.of (c : Char) : Joint :=
  if c = '\r' then .carriageReturn
  else if c = '\n' then .lineFeed
  else if c.toNat = 0x200D then .joiner
  else if Table.breaking.has c then .breaking
  else if Table.graphemeExtend.has c || emojiModifiers.has c then .extending
  else if Table.spacingMark.has c then .spacing
  else if Table.prepended.has c then .prepended
  else if regionalIndicators.has c then .regional
  else if leadingConsonants.has c then .leadingJamo
  else if jamoVowels.has c then .vowelJamo
  else if trailingConsonants.has c then .trailingJamo
  else if hangulSyllables.has c then
    if (c.toNat - 0xAC00) % 28 = 0 then .openSyllable else .closedSyllable
  else .plain

/-- A pictograph with its marks stands at the end of the cluster. -/
def endsPictographic (earlier : List Char) : Bool :=
  (earlier.dropWhile fun c => Joint.of c = .extending).head?.any isPictographic

/-- Whether `c` goes on with a cluster that ends in `last`, after `earlier`, nearest character
first. Regional indicators pair up, so one joins after an odd number of them. -/
def joins (last : Char) (earlier : List Char) (c : Char) : Bool :=
  match Joint.of last, Joint.of c with
  | .carriageReturn, .lineFeed => true
  | .carriageReturn, _ | .lineFeed, _ | .breaking, _ => false
  | _, .carriageReturn | _, .lineFeed | _, .breaking => false
  | .leadingJamo, .leadingJamo | .leadingJamo, .vowelJamo => true
  | .leadingJamo, .openSyllable | .leadingJamo, .closedSyllable => true
  | .openSyllable, .vowelJamo | .openSyllable, .trailingJamo => true
  | .vowelJamo, .vowelJamo | .vowelJamo, .trailingJamo => true
  | .closedSyllable, .trailingJamo | .trailingJamo, .trailingJamo => true
  | _, .extending | _, .joiner | _, .spacing => true
  | .prepended, _ => true
  | .joiner, .plain => isPictographic c && endsPictographic earlier
  | .regional, .regional => (earlier.takeWhile fun c => Joint.of c = .regional).length % 2 = 0
  | _, _ => false

/-- The clusters of a text that starts with the characters of `earlier`, `last` foremost, which
form the beginning of one. -/
def clustersAfter (last : Char) (earlier : List Char) : List Char → List (List Char)
  | [] => [(last :: earlier).reverse]
  | c :: rest =>
    if joins last earlier c then clustersAfter c (last :: earlier) rest
    else (last :: earlier).reverse :: clustersAfter c [] rest

def clusters : List Char → List (List Char)
  | [] => []
  | c :: rest => clustersAfter c [] rest

theorem flatten_clustersAfter (last : Char) (earlier cs : List Char) :
    (clustersAfter last earlier cs).flatten = (last :: earlier).reverse ++ cs := by
  induction cs generalizing last earlier with
  | nil => simp [clustersAfter]
  | cons c rest ih => unfold clustersAfter; split <;> simp [ih]

/-- Cutting into clusters loses nothing. -/
theorem flatten_clusters (cs : List Char) : (clusters cs).flatten = cs := by
  cases cs <;> simp [clusters, flatten_clustersAfter]

end Scaffold.Text
