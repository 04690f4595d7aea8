import Mathlib.Data.List.Basic

/-!
# Python objects and errors

The native layer handles Python objects it does not look into (handlers, factories, classes) by
reference, and asks the interpreter about them. References are a type parameter of the model.

## Main definitions

- `PyErr` — the errors native functions return
- `Introspection` — what registration asks about callables and lists
- `handlerSignatureKinds`, `dependencyWantsRequest` — the parameters of a callable
-/

namespace OxyRoute

/-- A Python exception: one built by native code or by the standard library, or one raised by other
Python code. -/
inductive PyErr (Ref : Type)
  | valueError (msg : String)
  | typeError (msg : String)
  | runtimeError (msg : String)
  | overflowError (msg : String)
  | attributeError (msg : String)
  | osError (msg : String)
  | unicodeEncodeError
  | raised (exc : Ref)
  deriving DecidableEq, Repr

/-- `inspect.Parameter.kind`. -/
inductive ParamKind
  | positionalOnly | positionalOrKeyword | varPositional | keywordOnly | varKeyword
  deriving DecidableEq, Repr

/-- What registration asks the interpreter about the objects it is given. -/
structure Introspection (Ref : Type) where
  /-- `inspect.iscoroutinefunction`. -/
  isCoroutineFunction : Ref → Except (PyErr Ref) Bool
  /-- `inspect.signature(f).parameters`. -/
  parameters : Ref → Except (PyErr Ref) (List (String × ParamKind))
  /-- `f.__name__`. -/
  name : Ref → Except (PyErr Ref) String
  /-- `extract::<String>`. -/
  extractString : Ref → Except (PyErr Ref) String
  /-- The items of a tuple, or the failed downcast. -/
  tupleItems : Ref → Except (PyErr Ref) (List Ref)

variable {Ref : Type}

/-- `handler_signature_kinds`: the parameters that can be given by name, and whether there is a
`**kwargs`. -/
def handlerSignatureKinds (py : Introspection Ref) (handler : Ref) :
    Except (PyErr Ref) (List String × Bool) := do
  let params ← py.parameters handler
  let names := (params.filter fun p =>
    p.2 = .positionalOrKeyword ∨ p.2 = .keywordOnly).map (·.1)
  return (names, params.any fun p => p.2 = .varKeyword)

/-- `dependency_wants_request`: the factory declares a parameter called `request`. -/
def dependencyWantsRequest (py : Introspection Ref) (f : Ref) : Except (PyErr Ref) Bool := do
  let params ← py.parameters f
  return params.any fun p => p.1 = "request"

/-- A bind that ends well has a first part that ends well. -/
theorem Except.of_bind_eq_ok {ε α β : Type} {x : Except ε α} {f : α → Except ε β} {b : β}
    (h : x >>= f = .ok b) : ∃ a, x = .ok a ∧ f a = .ok b := by
  cases x with
  | error e => cases h
  | ok a => exact ⟨a, rfl, h⟩

end OxyRoute
