/-!
Texts as sequences of code points, lone surrogates among them. Every `String` is a text, and
a text without lone surrogates is a `String` again.
-/
namespace DocClient

/-- One code point of a text: a character, or a surrogate (U+D800 to U+DFFF) on its own. -/
inductive Point where
  | char (c : Char)
  /-- The surrogate U+D800 + `k`. -/
  | surrogate (k : Fin 2048)
  deriving DecidableEq, Repr, Inhabited

namespace Point

/-- The code point. -/
def toNat : Point → Nat
  | .char c => c.toNat
  | .surrogate k => 0xD800 + k.val

/-- The point of a code point: a surrogate by its offset, else a character. -/
def ofNat (n : Nat) : Point :=
  if h : 0xD800 ≤ n ∧ n < 0xE000 then .surrogate ⟨n - 0xD800, by omega⟩ else .char (Char.ofNat n)

/-- Whether the point is a surrogate. -/
def isSurrogate : Point → Bool
  | .char _ => false
  | .surrogate _ => true

theorem ofNat_toNat_char (c : Char) : ofNat c.toNat = .char c := by
  have hc := c.valid
  unfold ofNat
  rw [dif_neg]
  · simp
  · intro h
    simp only [Char.toNat, UInt32.isValidChar, Nat.isValidChar] at h hc
    omega

theorem ofNat_toNat_surrogate (k : Fin 2048) : ofNat (toNat (.surrogate k)) = .surrogate k := by
  have h1 : 55296 ≤ 55296 + (k : Nat) := Nat.le_add_right _ _
  have h2 : 55296 + (k : Nat) < 57344 := by have := k.isLt; omega
  simp [ofNat, toNat, h1, h2]

end Point

/-- A text: a sequence of code points. -/
structure Text where
  points : List Point
  deriving DecidableEq, Repr, Inhabited

namespace Text

/-- The text of a string. -/
def ofString (s : String) : Text := ⟨s.toList.map .char⟩

instance : Coe String Text := ⟨ofString⟩

instance : Append Text := ⟨fun a b => ⟨a.points ++ b.points⟩⟩

/-- The characters of a text without lone surrogates. -/
def toChars? (t : Text) : Option (List Char) :=
  t.points.mapM fun
    | .char c => some c
    | .surrogate _ => none

/-- The string of a text without lone surrogates. -/
def toString? (t : Text) : Option String := t.toChars?.map String.ofList

/-- The string of a text, each lone surrogate written as U+FFFD. -/
def lossy (t : Text) : String :=
  String.ofList (t.points.map fun
    | .char c => c
    | .surrogate _ => '�')

/-- Whether the text is empty. -/
def isEmpty (t : Text) : Bool := t.points.isEmpty

/-- The number of code points. -/
def length (t : Text) : Nat := t.points.length

/-- Whether the text starts with a string. -/
def startsWith (t : Text) (p : String) : Bool := (ofString p).points.isPrefixOf t.points

/-- A text of one point. -/
def single (p : Point) : Text := ⟨[p]⟩

/-- Texts joined with a separator between each two. -/
def intercalate (sep : String) (ts : List Text) : Text :=
  ⟨(ofString sep).points.intercalate (ts.map points)⟩

theorem toChars?_ofString (s : String) : (ofString s).toChars? = some s.toList := by
  unfold toChars? ofString
  induction s.toList with
  | nil => rfl
  | cons c cs ih => simp [List.mapM_cons, ih]

theorem toString?_ofString (s : String) : (ofString s).toString? = some s := by
  simp [toString?, toChars?_ofString]

theorem lossy_ofString (s : String) : (ofString s).lossy = s := by
  have h : (s.toList.map Point.char).map (fun
      | .char c => c
      | .surrogate _ => '�') = s.toList := by
    induction s.toList with
    | nil => rfl
    | cons c cs ih => simp [ih]
  simp only [lossy, ofString, h, String.ofList_toList]

theorem ofString_append (a b : String) : ofString (a ++ b) = ofString a ++ ofString b := by
  show ofString (a ++ b) = ⟨(ofString a).points ++ (ofString b).points⟩
  simp [ofString]

end Text

end DocClient
