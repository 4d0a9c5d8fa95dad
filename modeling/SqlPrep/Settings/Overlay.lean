import SqlPrep.Value.Access

/-!
# Overlaying mappings

Lays one mapping over another. A mapping over a mapping is laid entry by entry, at every depth;
anything else replaces what was there. Keys keep the order of the base, and new keys follow in the
order of the overlay.
-/

namespace SqlPrep

mutual

/-- A value laid over what stands at its key, if anything. -/
def Value.onto (value : Value) (old : Option Value) : Value :=
  match value with
  | .map entries =>
    match old with
    | some (.map base) => .map (Entries.overlay base entries)
    | _ => .map entries
  | v => v

/-- The entries of a base with further entries laid over them. -/
def Entries.overlay (base : Entries) : List (Value × Value) → Entries
  | [] => base
  | (key, value) :: rest =>
    Entries.overlay (Entries.put base key (value.onto (Entries.get? base key))) rest

end

namespace Value

/-- Assigns one entry of an overlay in a value that need not be a mapping. -/
def overlayEntry (base key value : Value) : Except AccessError Value :=
  match base, value with
  | .map entries, _ => .ok (.map (Entries.overlay entries [(key, value)]))
  | _, .map _ => .error (.noOperation base "get")
  | _, _ => base.assign key value

/-- Lays a value over another. The overlay has to be a mapping, and so has the base unless the
overlay is empty or assigns positions of a list. -/
def overlay (base top : Value) : Except AccessError Value :=
  match top with
  | .map entries => entries.foldlM (fun merged e => merged.overlayEntry e.1 e.2) base
  | v => .error (.noOperation v "items")

end Value
end SqlPrep
