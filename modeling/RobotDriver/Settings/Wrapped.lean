import RobotDriver.Toml.Document

/-!
# Wrapped values

A table in a file may wrap a value: it then stands for the item of its key `wrappedKey`, whatever else it
holds, and `Item.content` is what is left when all such tables are taken off. Where a value comes from is
for the loader to say, so a table may not have the key `originKey`; `Item.isUnmarked` says that none in an
item does.
-/

namespace RobotDriver.Toml

/-- The key of the value in a table that wraps one. -/
def wrappedKey : String := "___figment_value_value"

/-- The key under which the loader keeps where a value comes from. -/
def originKey : String := "___figment_value_id"

mutual

/-- The item without the tables that wrap it. -/
def Item.content : Item → Item
  | .inlineTable entries => contentOr (.inlineTable entries) entries
  | .table origin entries => contentOr (.table origin entries) entries
  | item => item

/-- The content of the item that the entries wrap, or `whole` if they wrap none. -/
def contentOr (whole : Item) : List (String × Item) → Item
  | [] => whole
  | (key, item) :: entries => if key = wrappedKey then item.content else contentOr whole entries

end

mutual

/-- No table in the item says where a value comes from. -/
def Item.isUnmarked : Item → Bool
  | .inlineTable entries | .table _ entries => areUnmarked entries
  | .tables elements => elementsUnmarked elements
  | .array items => itemsUnmarked items
  | _ => true

/-- Neither a table with these entries nor one in their items says where a value comes from. -/
def areUnmarked : List (String × Item) → Bool
  | [] => true
  | (key, item) :: entries => key != originKey && item.isUnmarked && areUnmarked entries

/-- No table of a list says where a value comes from. -/
def elementsUnmarked : List (List (String × Item)) → Bool
  | [] => true
  | entries :: elements => areUnmarked entries && elementsUnmarked elements

/-- No item of a list says where a value comes from. -/
def itemsUnmarked : List Item → Bool
  | [] => true
  | item :: items => item.isUnmarked && itemsUnmarked items

end

end RobotDriver.Toml
