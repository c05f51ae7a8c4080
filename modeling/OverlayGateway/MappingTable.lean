import OverlayGateway.Identity
/-!
The table that maps overlay addresses to identities. It is a finite map with verbatim texts as
keys: the last identity set for a key counts until the key is removed. As JSON a table is listed as
an object from addresses to identities, sorted by address; the remote source sends such an object as
the member `mappings`, and no or `null` mappings for an empty table.
-/

set_option autoImplicit false
set_option relaxedAutoImplicit false

namespace OverlayGateway

/-- A finite map from address texts to identities; a key is listed once. -/
structure MappingTable where
  entries : List (String × Identity) := []
  nodup : (entries.map Prod.fst).Nodup := by simp

namespace MappingTable

def empty : MappingTable := ⟨[], by simp⟩

instance : Inhabited MappingTable := ⟨empty⟩

def get? (table : MappingTable) (key : String) : Option Identity := table.entries.lookup key

def remove (table : MappingTable) (key : String) : MappingTable where
  entries := table.entries.filter fun entry ↦ entry.1 ≠ key
  nodup := by
    have h := table.nodup
    rw [List.nodup_iff_pairwise_ne, List.pairwise_map] at h ⊢
    exact h.filter _

def set (table : MappingTable) (key : String) (identity : Identity) : MappingTable where
  entries := (table.remove key).entries ++ [(key, identity)]
  nodup := by
    rw [List.map_append, List.nodup_append]
    refine ⟨(table.remove key).nodup, by simp, ?_⟩
    intro other hother last hlast
    simp only [remove, List.mem_map, List.mem_filter] at hother
    obtain ⟨entry, ⟨_, hne⟩, rfl⟩ := hother
    simp only [List.map_cons, List.map_nil, List.mem_singleton] at hlast
    subst hlast
    simpa using hne

def size (table : MappingTable) : Nat := table.entries.length

def isEmpty (table : MappingTable) : Bool := table.entries.isEmpty

/-- The table with every listed entry set, in order. -/
def merge (table : MappingTable) (entries : List (String × Identity)) : MappingTable :=
  entries.foldl (fun table entry ↦ table.set entry.1 entry.2) table

def ofList (entries : List (String × Identity)) : MappingTable := empty.merge entries

theorem lookup_eq_none_of_forall_ne {entries : List (String × Identity)} {key : String}
    (h : ∀ entry ∈ entries, entry.1 ≠ key) : entries.lookup key = none := by
  rw [List.lookup_eq_none_iff]
  intro entry hentry
  simpa using (h entry hentry).symm

@[simp] theorem get?_empty (key : String) : empty.get? key = none := rfl

@[simp] theorem get?_remove_self (table : MappingTable) (key : String) :
    (table.remove key).get? key = none := by
  refine lookup_eq_none_of_forall_ne fun entry hentry ↦ ?_
  simpa [remove] using (List.mem_filter.1 hentry).2

theorem lookup_filter_ne (entries : List (String × Identity)) {key other : String}
    (h : other ≠ key) :
    (entries.filter fun entry ↦ entry.1 ≠ key).lookup other = entries.lookup other := by
  induction entries with
  | nil => rfl
  | cons entry entries ih =>
    obtain ⟨name, identity⟩ := entry
    by_cases hname : name = key
    · subst hname
      rw [List.filter_cons_of_neg (by simp), ih, List.lookup_cons, beq_eq_false_iff_ne.2 h]
    · rw [List.filter_cons_of_pos (by simpa using hname), List.lookup_cons, List.lookup_cons, ih]

theorem get?_remove_of_ne (table : MappingTable) {key other : String} (h : other ≠ key) :
    (table.remove key).get? other = table.get? other :=
  lookup_filter_ne table.entries h

@[simp] theorem get?_set_self (table : MappingTable) (key : String) (identity : Identity) :
    (table.set key identity).get? key = some identity := by
  have h : (table.remove key).entries.lookup key = none := get?_remove_self table key
  simp [get?, set, List.lookup_append, h]

theorem get?_set_of_ne (table : MappingTable) {key other : String} (identity : Identity)
    (h : other ≠ key) : (table.set key identity).get? other = table.get? other := by
  have hkeep : (table.remove key).entries.lookup other = table.entries.lookup other :=
    get?_remove_of_ne table h
  have hlast : List.lookup other [(key, identity)] = none := by
    rw [List.lookup_cons, beq_eq_false_iff_ne.2 h, List.lookup_nil]
  simp [get?, set, List.lookup_append, hkeep, hlast]

/-! ### Documents -/

/-- The listing of a table. -/
def document (table : MappingTable) : Json.Value :=
  .sorted (table.entries.map fun (key, identity) ↦ (key, .sorted identity.members))

/-- The entries that a remote source sends. -/
def remoteField : Json.RecordField (List (String × Identity)) where
  name := "mappings"
  decode := fun value ↦
    (Json.orNull (Json.asMapOf Identity.decode) value).map fun entries ↦ entries.getD []
  absent := some []

def decodeRemote : Json.Decoder MappingTable := fun value ↦ do
  match ← Json.asRecord "MappingsResponse" [remoteField] value with
  | [entries] => return ofList entries
  | _ => throw .malformed

/-- The table in a remote source's answer; of two entries with one address the later one counts. -/
def ofRemote (bytes : List UInt8) : Except Json.Fault MappingTable :=
  (Json.readDocument bytes).decode decodeRemote

end MappingTable

end OverlayGateway
