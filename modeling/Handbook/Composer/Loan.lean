import Handbook.Table
import Handbook.Value.Basic

/-!
Loans. Some providers lend a document the lists and tables that they keep. What the document adds to a lent
value stays with the provider, and is there when the value is lent again.
-/

namespace Handbook.Composer

/-- What has become of lent values, by provider and by the name of the variable. -/
abbrev Loans := Table (Table Value)

namespace Loans

/-- What has become of a provider's values. -/
def of (loans : Loans) (provider : String) : Table Value := (loans.get? provider).getD []

/-- A provider's variables as it lends them now. -/
def current (loans : Loans) (provider : String) (own : Table Value) : Table Value :=
  own.map fun (name, value) => (name, ((loans.of provider).get? name).getD value)

/-- What is left of the loans once a lent value has become another one. -/
def note (loans : Loans) (provider name : String) (value : Value) : Loans :=
  loans.put provider ((loans.of provider).put name value)

/-- A provider that has not been noted lends what it started with. -/
theorem current_of_get?_eq_none {loans : Loans} {provider : String} (unnoted : loans.get? provider = none)
    (own : Table Value) : loans.current provider own = own := by
  simp [current, of, unnoted]

/-- A value that has been noted is what is found the next time. -/
theorem get?_of_note (loans : Loans) (provider name other : String) (value : Value) :
    ((loans.note provider name value).of provider).get? other =
      if other = name then some value else (loans.of provider).get? other := by
  simp [note, of]

/-- Noting a value of one provider leaves the others alone. -/
theorem of_note_of_ne {provider other : String} (apart : other ≠ provider) (loans : Loans) (name : String)
    (value : Value) : (loans.note provider name value).of other = loans.of other := by
  simp [note, of, apart]

end Loans

end Handbook.Composer
