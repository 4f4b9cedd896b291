import Mathlib.Data.List.Basic

set_option autoImplicit false

namespace Library

instance lawfulBEqText : LawfulBEq (List Char) := inferInstance

instance lawfulBEqTexts : LawfulBEq (List (List Char)) := inferInstance

end Library
