/-!
# Snippets

Reusable pieces of neutral markup. A store indexes those it is created with when it is made
ready, and any that is inserted later at once. The index keeps the order in which identifiers
came in.
-/

namespace Scaffold

structure Snippet where
  id : String
  category : String
  tags : List String := []
  markup : String
  deriving DecidableEq, Repr

/-- A snippet was refused because its identifier is indexed already. -/
structure DuplicateSnippet where
  id : String
  deriving DecidableEq, Repr

def DuplicateSnippet.message (e : DuplicateSnippet) : String := "duplicate snippet id: " ++ e.id

structure SnippetStore where
  /-- Snippets that wait for the store to be made ready. -/
  pending : List Snippet := []
  /-- The indexed snippets under their keys. -/
  index : List (String × Snippet) := []
  isReady : Bool := false
  deriving DecidableEq, Repr

namespace SnippetStore

/-- Puts a snippet under a key: in the place of the one that is there, or else at the end. -/
def put (key : String) (s : Snippet) : List (String × Snippet) → List (String × Snippet)
  | [] => [(key, s)]
  | (k, t) :: rest => if k = key then (k, s) :: rest else (k, t) :: put key s rest

/-- Puts snippets under their identifiers, one after the other. -/
def putAll (index : List (String × Snippet)) (snippets : List Snippet) : List (String × Snippet) :=
  snippets.foldl (fun index s => put s.id s index) index

def ofPending (pending : List Snippet) : SnippetStore := { pending }

/-- Indexes what is pending, the first time only. Of several snippets with one identifier the last
counts. -/
def ready (store : SnippetStore) : SnippetStore :=
  if store.isReady then store
  else { pending := [], index := putAll store.index store.pending, isReady := true }

def get? (store : SnippetStore) (id : String) : Option Snippet := store.index.lookup id

/-- Indexes a snippet whose identifier is not indexed yet. -/
def insert (store : SnippetStore) (s : Snippet) : Except DuplicateSnippet SnippetStore :=
  if (store.index.lookup s.id).isSome then .error ⟨s.id⟩
  else .ok { store with index := put s.id s store.index }

def size (store : SnippetStore) : Nat := store.index.length

def isEmpty (store : SnippetStore) : Bool := store.size == 0

/-- The indexed snippets in order. -/
def snippets (store : SnippetStore) : List Snippet := store.index.map Prod.snd

def inCategory (store : SnippetStore) (category : String) : List Snippet :=
  store.snippets.filter (·.category = category)

def tagged (store : SnippetStore) (tag : String) : List Snippet :=
  store.snippets.filter (·.tags.contains tag)

end SnippetStore

end Scaffold
