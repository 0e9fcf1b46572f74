import IndentLint.Settings.Basic

/-! Reserved keys, which have two underscores on both sides. Every group knows them, and most of
them have no effect. -/
namespace IndentLint

open Document (Value Entries)

inductive Reserved where
  | idle
  | kind
  | weak
  | contents
  | outline
  deriving DecidableEq, Repr

namespace Reserved

def idleKeys : List String :=
  ["__annotations__", "__dataclass_params__", "__delattr__", "__dir__", "__doc__", "__eq__",
    "__format__", "__ge__", "__getattribute__", "__getstate__", "__gt__", "__hash__", "__init__",
    "__init_subclass__", "__le__", "__lt__", "__match_args__", "__module__", "__ne__", "__new__",
    "__reduce__", "__reduce_ex__", "__repr__", "__setattr__", "__sizeof__", "__str__",
    "__subclasshook__"]

def outlineKey : String := "__dataclass_fields__"

def ofKey? (key : String) : Option Reserved :=
  if key = "__class__" then some .kind
  else if key = "__weakref__" then some .weak
  else if key = "__dict__" then some .contents
  else if key = outlineKey then some .outline
  else if idleKeys.contains key then some .idle
  else none

end Reserved

namespace Settings

/-- Puts entries in the place of all the values of a group. A setting that they leave out has its
default again, or no value at all. -/
def replaceGroup (s : Settings) (g : Group) (entries : Entries) : Settings :=
  let given? (setting : Setting) : Option Value := entries.get? (.text setting.key)
  let lost := g.settings.filter fun setting => !setting.fallsBack && (given? setting).isNone
  let texts := entries.filterMap fun e => (Value.scalar e.1).text?
  { value := fun setting =>
      if g.settings.contains setting then (given? setting).getD setting.default
      else s.value setting
    missing := s.missing.filter (!g.settings.contains ·) ++ lost
    names := fun other => if other = g then texts else s.names other
    outline := fun other =>
      if other = g then entries.get? (.text Reserved.outlineKey) else s.outline other }

def put? (s : Settings) (g : Group) (key : String) (v : Value) : Option (Except Unusable Settings) :=
  match g.setting? key with
  | some setting => if s.missing.contains setting then none else some (.ok (s.set setting v))
  | none =>
    match Reserved.ofKey? key with
    | some .idle => some (.ok s)
    | some .kind => some (.error .mistyped)
    | some .weak => some (.error .absent)
    | some .contents =>
      match v with
      | .mapping entries => some (.ok (s.replaceGroup g entries))
      | _ => some (.error .mistyped)
    | some .outline =>
      some (.ok { s with outline := fun other => if other = g then some v else s.outline other })
    | none => if (s.names g).contains key then some (.ok s) else none

end Settings
end IndentLint
