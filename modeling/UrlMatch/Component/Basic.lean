/-!
# The components of a URL

A URL is matched component by component. `Component` names the eight of them, and `Components α`
holds one value for each; `Components.get` and `Components.set` are its view.
-/

namespace UrlMatch

/-- One of the eight parts of a URL that a pattern describes on their own. -/
inductive Component
  | protocol | username | password | hostname | port | pathname | search | hash
deriving Repr, DecidableEq, Inhabited

namespace Component

/-- All components, in the order in which they are worked on. What a path may hold depends on the
protocol, so the protocol comes first. -/
def all : List Component :=
  [protocol, username, password, hostname, port, pathname, search, hash]

theorem mem_all (c : Component) : c ∈ all := by cases c <;> decide

/-- The name of a component. -/
def name : Component → String
  | protocol => "protocol"
  | username => "username"
  | password => "password"
  | hostname => "hostname"
  | port => "port"
  | pathname => "pathname"
  | search => "search"
  | hash => "hash"

/-- The component with a name. -/
def ofName? (s : String) : Option Component := all.find? fun c => c.name == s

theorem ofName?_name (c : Component) : ofName? c.name = some c := by cases c <;> decide

/-- The position of a component in `all`. -/
def index (c : Component) : Nat := all.idxOf c

end Component

/-- One value for each component. -/
structure Components (α : Type) where
  protocol : α
  username : α
  password : α
  hostname : α
  port : α
  pathname : α
  search : α
  hash : α
deriving Repr, DecidableEq

namespace Components

/-- The values that a function gives. -/
def ofFn {α : Type} (f : Component → α) : Components α where
  protocol := f .protocol
  username := f .username
  password := f .password
  hostname := f .hostname
  port := f .port
  pathname := f .pathname
  search := f .search
  hash := f .hash

/-- The same value everywhere. -/
def replicate {α : Type} (a : α) : Components α := ofFn fun _ => a

/-- The value of one component. -/
def get {α : Type} (m : Components α) : Component → α
  | .protocol => m.protocol
  | .username => m.username
  | .password => m.password
  | .hostname => m.hostname
  | .port => m.port
  | .pathname => m.pathname
  | .search => m.search
  | .hash => m.hash

/-- Replaces the value of one component. -/
def set {α : Type} (m : Components α) (c : Component) (a : α) : Components α :=
  match c with
  | .protocol => { m with protocol := a }
  | .username => { m with username := a }
  | .password => { m with password := a }
  | .hostname => { m with hostname := a }
  | .port => { m with port := a }
  | .pathname => { m with pathname := a }
  | .search => { m with search := a }
  | .hash => { m with hash := a }

/-- The components with their values, in order. -/
def toList {α : Type} (m : Components α) : List (Component × α) :=
  Component.all.map fun c => (c, m.get c)

/-- Applies a function to each component and its value. -/
def map {α β : Type} (f : Component → α → β) (m : Components α) : Components β :=
  ofFn fun c => f c (m.get c)

@[simp] theorem get_ofFn {α : Type} (f : Component → α) (c : Component) : (ofFn f).get c = f c := by
  cases c <;> rfl

@[simp] theorem get_replicate {α : Type} (a : α) (c : Component) : (replicate a).get c = a := by
  simp [replicate]

@[simp] theorem get_set_self {α : Type} (m : Components α) (c : Component) (a : α) :
    (m.set c a).get c = a := by
  cases c <;> rfl

theorem get_set_of_ne {α : Type} (m : Components α) {c d : Component} (a : α) (h : c ≠ d) :
    (m.set c a).get d = m.get d := by
  cases c <;> cases d <;> first | rfl | exact absurd rfl h

@[simp] theorem get_map {α β : Type} (f : Component → α → β) (m : Components α) (c : Component) :
    (m.map f).get c = f c (m.get c) := by
  simp [map]

/-- Two records that agree on every component are equal. -/
theorem ext_get {α : Type} {m n : Components α} (h : ∀ c, m.get c = n.get c) : m = n := by
  have h1 := h .protocol; have h2 := h .username; have h3 := h .password
  have h4 := h .hostname; have h5 := h .port; have h6 := h .pathname
  have h7 := h .search; have h8 := h .hash
  cases m; cases n
  simp_all [get]

/-- Applies a function with effects to each component and its value, in order. -/
def mapM {m : Type → Type} [Monad m] {α β : Type} (f : Component → α → m β) (x : Components α) :
    m (Components β) := do
  return {
    protocol := ← f .protocol x.protocol
    username := ← f .username x.username
    password := ← f .password x.password
    hostname := ← f .hostname x.hostname
    port := ← f .port x.port
    pathname := ← f .pathname x.pathname
    search := ← f .search x.search
    hash := ← f .hash x.hash }

end Components

end UrlMatch
