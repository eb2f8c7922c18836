namespace Scaffold.Text

def lower (s : String) : String :=
  String.ofList (s.toList.map Char.toLower)

def upper (s : String) : String :=
  String.ofList (s.toList.map Char.toUpper)

theorem toList_lower (s : String) : (lower s).toList = s.toList.map Char.toLower :=
  String.toList_ofList

theorem toList_upper (s : String) : (upper s).toList = s.toList.map Char.toUpper :=
  String.toList_ofList

-- Letters, digits and the low line.
def isWordChar (c : Char) : Bool :=
  c.isAlphanum || c == '_'

-- An identifier starts with a letter or a low line and goes on with word characters.
def isIdentifier : List Char → Bool
  | [] => false
  | c :: cs => (c.isAlpha || c == '_') && cs.all isWordChar

-- A message type's name starts with a capital letter and goes on with word characters.
def isTypeName : List Char → Bool
  | [] => false
  | c :: cs => c.isUpper && cs.all isWordChar

theorem isIdentifier_of_isTypeName {s : List Char} (h : isTypeName s = true) :
    isIdentifier s = true := by
  cases s with
  | nil => exact h
  | cons c cs =>
    simp only [isTypeName, isIdentifier, Bool.and_eq_true, Bool.or_eq_true] at h ⊢
    have isAlpha : c.isAlpha = (c.isUpper || c.isLower) := rfl
    exact ⟨Or.inl (by simp [isAlpha, h.1]), h.2⟩

end Scaffold.Text
