/-!
# Unpaired surrogates

An escape can name one half of a surrogate pair. Such a half is no character, and yet texts carry
it from where it is read to where it is written. A text holds it as a stand-in: the character
`0x50000` above it, in a plane where no characters are assigned. `code` gives back the code point
that a character stands for; texts are ordered by these code points.

The code points U+5D800 to U+5DFFF themselves have no representation: a text that holds one of them
is taken for a text with an unpaired surrogate. What is proved of all texts is therefore about texts
without these code points.

Main statements: `code_ofCode`, and that different characters stand for different code points.
-/

namespace RunCharts.Text

def isSurrogate (n : Nat) : Bool := 0xD800 ≤ n && n < 0xE000

def standInShift : Nat := 0x50000

/-- Whether a character stands for half of a pair. -/
def isStandIn (c : Char) : Bool :=
  0xD800 + standInShift ≤ c.toNat && c.toNat < 0xE000 + standInShift

def ofCode (n : Nat) : Char := Char.ofNat (if isSurrogate n then n + standInShift else n)

def code (c : Char) : Nat := if isStandIn c then c.toNat - standInShift else c.toNat

theorem not_isSurrogate_toNat (c : Char) : isSurrogate c.toNat = false := by
  have h := c.valid
  simp only [UInt32.isValidChar, Nat.isValidChar] at h
  simp only [isSurrogate, Char.toNat]
  grind

theorem code_injective {c d : Char} (h : code c = code d) : c = d := by
  have hc := not_isSurrogate_toNat c
  have hd := not_isSurrogate_toNat d
  have : c.toNat = d.toNat := by
    simp only [code, isStandIn, isSurrogate, standInShift] at *
    grind
  exact Char.toNat_inj.mp this

theorem toNat_ofNat {n : Nat} (h : n.isValidChar) : (Char.ofNat n).toNat = n := by
  rw [Char.ofNat, dif_pos h]
  rfl

/-- A code point that is no stand-in itself is held and given back. -/
theorem code_ofCode {n : Nat} (h : n < 0x110000) (hn : n < 0x5D800 ∨ 0x5E000 ≤ n) :
    code (ofCode n) = n := by
  have hv : (if isSurrogate n then n + standInShift else n).isValidChar := by
    simp only [Nat.isValidChar, isSurrogate, standInShift]
    grind
  have ht : (ofCode n).toNat = if isSurrogate n then n + standInShift else n := by
    rw [ofCode, toNat_ofNat hv]
  rw [code, isStandIn, ht]
  simp only [isSurrogate, standInShift] at *
  grind

/-- Whether a text comes before another in the order of code points. -/
def precedes (s t : String) : Bool := decide (s.toList.map code < t.toList.map code)

/-- Whether a text consists of characters only. -/
def isWhole (s : String) : Bool := s.toList.all fun c => !isStandIn c

/-- A stretch of unpaired surrogates: how many characters stand in front, how many surrogates there
are, and the first of them. -/
structure Stretch where
  start : Nat
  length : Nat
  first : Nat
deriving DecidableEq, Repr

def firstStretch? (cs : List Char) : Option Stretch :=
  let front := cs.takeWhile fun c => !isStandIn c
  match cs.drop front.length with
  | [] => none
  | c :: rest => some ⟨front.length, (rest.takeWhile isStandIn).length + 1, code c⟩

end RunCharts.Text
