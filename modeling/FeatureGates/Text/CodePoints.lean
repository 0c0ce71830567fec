import FeatureGates.Failure

/-!
# Code points

A text is made of characters. The name of a feature may hold more: among
its code points surrogates can stand alone, which are no characters. Such
a name can be kept and compared, but it has no UTF-8 form: encoding it
fails, over the first surrogates (`CodePoints.unencodable`).

Every text is such a list of code points (`CodePoints.ofText`), and those
without surrogates are all texts (`CodePoints.eq_ofText`).
-/

namespace FeatureGates

/-- A character, or one of the 2048 surrogates. -/
inductive CodePoint where
  | char (c : Char)
  | surrogate (offset : Fin 0x800)
deriving DecidableEq

namespace CodePoint

def code : CodePoint → Nat
  | .char c => c.toNat
  | .surrogate offset => 0xD800 + offset

def char? : CodePoint → Option Char
  | .char c => some c
  | .surrogate _ => none

def isChar (point : CodePoint) : Bool := point.char?.isSome

end CodePoint

/-- A list of code points, of which surrogates may be some. -/
structure CodePoints where
  points : List CodePoint
deriving DecidableEq

namespace CodePoints

def ofText (text : String) : CodePoints := ⟨text.toList.map .char⟩

instance : Coe String CodePoints := ⟨ofText⟩

instance : Append CodePoints := ⟨fun left right => ⟨left.points ++ right.points⟩⟩

/-- The characters among the code points. -/
def text (raw : CodePoints) : String := String.ofList (raw.points.filterMap CodePoint.char?)

/-- There are no surrogates. -/
def isText (raw : CodePoints) : Bool := raw.points.all CodePoint.isChar

/-- How encoding fails: it tells the first surrogates, all that stand together. -/
def unencodable (raw : CodePoints) : Failure :=
  let rest := raw.points.dropWhile CodePoint.isChar
  .notEncodable (raw.points.length - rest.length)
    ((rest.takeWhile fun point => !point.isChar).map CodePoint.code)

theorem category_unencodable (raw : CodePoints) : raw.unencodable.category = .encoding := rfl

/-- The UTF-8 form, which surrogates have none of. -/
def encode (raw : CodePoints) : Except Failure ByteArray :=
  if raw.isText then .ok raw.text.toUTF8 else .error raw.unencodable

/-! ## Texts -/

@[simp] theorem points_append (left right : CodePoints) :
    (left ++ right).points = left.points ++ right.points := rfl

@[simp] theorem ofText_append (left right : String) :
    ofText (left ++ right) = ofText left ++ ofText right := by
  show (⟨_⟩ : CodePoints) = ⟨_⟩
  rw [String.toList_append, List.map_append]
  rfl

@[simp] theorem isText_ofText (text : String) : (ofText text).isText = true := by
  unfold isText ofText
  rw [List.all_map]
  exact List.all_eq_true.2 fun _ _ => rfl

@[simp] theorem isText_append (left right : CodePoints) :
    (left ++ right).isText = (left.isText && right.isText) := by
  unfold isText
  rw [points_append, List.all_append]

@[simp] theorem text_ofText (text : String) : (ofText text).text = text := by
  unfold CodePoints.text ofText
  rw [List.filterMap_map]
  show String.ofList (text.toList.filterMap some) = text
  rw [List.filterMap_some, String.ofList_toList]

/-- Without surrogates it is the text of its characters. -/
theorem eq_ofText {raw : CodePoints} (h : raw.isText = true) : raw = ofText raw.text := by
  obtain ⟨points⟩ := raw
  unfold ofText CodePoints.text
  rw [String.toList_ofList]
  congr 1
  induction points with
  | nil => rfl
  | cons point rest ih =>
    obtain ⟨first, others⟩ := Bool.and_eq_true_iff.1 h
    cases point with
    | char c => exact congrArg (CodePoint.char c :: ·) (ih others)
    | surrogate offset => cases first

theorem encode_ofText (text : String) : (ofText text).encode = .ok text.toUTF8 := by
  unfold encode
  rw [isText_ofText, text_ofText]
  rfl

theorem encode_of_not_isText {raw : CodePoints} (h : raw.isText = false) :
    raw.encode = .error raw.unencodable := by
  unfold encode
  rw [h]
  rfl

end CodePoints

end FeatureGates
