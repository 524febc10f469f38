import FilePlacement.Fault
import FilePlacement.Text.Pieces

/-!
# Addresses of nodes

A node is reached under its own name unless an address is given for it. Addresses are written
`name=address`; of several texts for one node the last one counts.
-/

namespace FilePlacement

/-- Nodes with their addresses, each node at most once, in the order of their first mention. -/
structure NodeAddresses where
  pairs : List (String × String)
deriving DecidableEq, Repr

namespace NodeAddresses

def empty : NodeAddresses := ⟨[]⟩

def get? (m : NodeAddresses) (node : String) : Option String := m.pairs.lookup node

/-- Sets the address of a node in an association list. -/
def put (node address : String) : List (String × String) → List (String × String)
  | [] => [(node, address)]
  | (n, a) :: r => if n = node then (n, address) :: r else (n, a) :: put node address r

def insert (m : NodeAddresses) (node address : String) : NodeAddresses := ⟨put node address m.pairs⟩

theorem lookup_put (node address : String) (pairs : List (String × String)) (n : String) :
    (put node address pairs).lookup n = if n = node then some address else pairs.lookup n := by
  induction pairs with
  | nil => by_cases h : n = node <;> simp [put, List.lookup_cons, h, beq_eq_false_iff_ne.2]
  | cons p r ih =>
    obtain ⟨x, a⟩ := p
    by_cases hx : x = node
    · subst hx
      by_cases h : n = x
      · simp [put, h]
      · simp [put, h, List.lookup_cons, beq_false_of_ne h]
    · by_cases h : n = x
      · subst h; simp [put, hx]
      · simp [put, hx, List.lookup_cons, beq_false_of_ne h, ih]

theorem get?_insert (m : NodeAddresses) (node address n : String) :
    (m.insert node address).get? n = if n = node then some address else m.get? n :=
  lookup_put node address m.pairs n

/-- Name and address of one text. -/
def split? (text : String) : Option (String × String) :=
  (Text.cutProper '=' text.toList).map fun (name, address) => (String.ofList name, String.ofList address)

def addAll (m : NodeAddresses) : List String → Except Fault NodeAddresses
  | [] => .ok m
  | text :: rest =>
    match split? text with
    | some (name, address) => addAll (m.insert name address) rest
    | none => .error (.invalidNodeAddress text)

def parse (texts : List String) : Except Fault NodeAddresses := addAll empty texts

/-- The address under which a node is reached. -/
def address (m : NodeAddresses) (node : String) : String := (m.get? node).getD node

end NodeAddresses

end FilePlacement
