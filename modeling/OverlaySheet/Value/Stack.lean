import OverlaySheet.Value

/-! Tables laid over each other, where what lies on top wins. -/

namespace OverlaySheet

mutual

/-- A value over another one: two tables merge, and anything else hides what lies below. -/
def Value.over (below : Value) : Value → Value
  | .table fields =>
    match below with
    | .table base => .table (Table.over base fields)
    | _ => .table fields
  | value => value

/-- A table laid over another one, name by name. -/
def Table.over (base : List (String × Value)) : List (String × Value) → List (String × Value)
  | [] => base
  | (name, value) :: rest =>
    let merged := match Entries.find? name base with
      | some below => Value.over below value
      | none => value
    Table.over (Entries.insert name merged base) rest

end

/-- Tables laid over each other, the first at the bottom. -/
def Table.stack (layers : List Table) : Table :=
  layers.foldl Table.over []

end OverlaySheet
