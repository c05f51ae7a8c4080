import OverlayGateway.Http.Header
/-!
Header collections. A name may have several values, whose order counts; the order of different
names does not. Each operation is described by the values it leaves under every name.
-/

set_option autoImplicit false
set_option relaxedAutoImplicit false

namespace OverlayGateway.Http

structure Headers where
  entries : List (HeaderName × HeaderValue) := []
  deriving DecidableEq

namespace Headers

def empty : Headers := ⟨[]⟩

/-- The values of a name, in order. -/
def values (headers : Headers) (name : HeaderName) : List HeaderValue :=
  headers.entries.filterMap fun entry ↦ if entry.1 = name then some entry.2 else none

/-- The first value of a name. -/
def get? (headers : Headers) (name : HeaderName) : Option HeaderValue := (headers.values name).head?

def contains (headers : Headers) (name : HeaderName) : Bool :=
  headers.entries.any fun entry ↦ entry.1 = name

/-- The collection without the names for which `drop` holds. -/
def eraseWhere (headers : Headers) (drop : HeaderName → Bool) : Headers :=
  ⟨headers.entries.filter fun entry ↦ !drop entry.1⟩

def erase (headers : Headers) (name : HeaderName) : Headers :=
  headers.eraseWhere fun other ↦ other = name

/-- Adds a value behind those that its name already has. -/
def append (headers : Headers) (name : HeaderName) (value : HeaderValue) : Headers :=
  ⟨headers.entries ++ [(name, value)]⟩

/-- Makes a value the only one of its name. -/
def insert (headers : Headers) (name : HeaderName) (value : HeaderValue) : Headers :=
  (headers.erase name).append name value

theorem values_eraseWhere (headers : Headers) (drop : HeaderName → Bool) (name : HeaderName) :
    (headers.eraseWhere drop).values name = if drop name then [] else headers.values name := by
  obtain ⟨entries⟩ := headers
  simp only [values, eraseWhere, List.filterMap_filter]
  cases hdrop : drop name
  · simp only [Bool.false_eq_true, if_false]
    congr 1
    funext entry
    by_cases hname : entry.1 = name
    · simp [hname, hdrop]
    · simp [hname]
  · simp only [if_true, List.filterMap_eq_nil_iff]
    intro entry _
    by_cases hname : entry.1 = name
    · simp [hname, hdrop]
    · simp [hname]

@[simp] theorem values_erase_self (headers : Headers) (name : HeaderName) :
    (headers.erase name).values name = [] := by
  simp [erase, values_eraseWhere]

theorem values_erase_of_ne (headers : Headers) {name other : HeaderName} (h : other ≠ name) :
    (headers.erase name).values other = headers.values other := by
  simp [erase, values_eraseWhere, h]

@[simp] theorem values_append_self (headers : Headers) (name : HeaderName) (value : HeaderValue) :
    (headers.append name value).values name = headers.values name ++ [value] := by
  simp [append, values]

theorem values_append_of_ne (headers : Headers) {name other : HeaderName} (value : HeaderValue)
    (h : other ≠ name) : (headers.append name value).values other = headers.values other := by
  simp [append, values, h.symm]

@[simp] theorem values_insert_self (headers : Headers) (name : HeaderName) (value : HeaderValue) :
    (headers.insert name value).values name = [value] := by
  simp [insert]

theorem values_insert_of_ne (headers : Headers) {name other : HeaderName} (value : HeaderValue)
    (h : other ≠ name) : (headers.insert name value).values other = headers.values other := by
  rw [insert, values_append_of_ne _ _ h, values_erase_of_ne _ h]

end Headers

end OverlayGateway.Http
