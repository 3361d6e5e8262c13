import RequestParams.Declaration.Trait

set_option autoImplicit false
set_option relaxedAutoImplicit false

/-!
Items inside blocks and modules.  An item that is written in an unfinished form is printed as it
is written; the readers here tell whether it is.
-/

namespace RequestParams.Declaration

/-! ### Imports -/

namespace Reader

def newName : Reader Unit := nameOr ["_"]

/-- The names that are brought in behind a path; tells whether a branch starts at the root, as it
may where this is allowed.  Each step takes at least one token, so that the fuel bounds them. -/
def importTree : Nat → Bool → Reader Bool
  | 0, _ => failure
  | fuel + 1, allowRoot => do
    if ← punct? '*' then pure false
    else if ← sees (startsGroup .brace) then do
      let branches ← group .brace <| commaList do
        let isRooted ← if allowRoot then separator? else pure false
        let isRootedBelow ← importTree fuel (allowRoot && !isRooted)
        pure (isRooted || isRootedBelow)
      pure (branches.any id)
    else do
      nameOr ["self", "super", "crate", "try"]
      if ← separator? then importTree fuel false
      else do
        if ← word? "as" then newName
        pure false

def importItem : Reader Bool := do
  word "use"
  let isRooted ← separator?
  let isRootedBelow ← importTree (Tree.totalSize (← ahead) + 1) (!isRooted)
  punct ';'
  pure isRootedBelow

def libraryImport : Reader Unit := do
  word "extern"
  word "crate"
  nameOr ["self"]
  if ← word? "as" then newName
  punct ';'

end Reader

/-! ### Looking ahead -/

def startsTrait (trees : List Tree) : Bool := startsWord "trait" (dropWord "auto" trees)

def startsUnion (trees : List Tree) : Bool := startsWord "union" trees && startsName (trees.drop 1)

def startsImplementation (trees : List Tree) : Bool :=
  startsWord "impl" trees || startsDefault trees ||
    (startsWord "unsafe" trees && startsWord "impl" (trees.drop 1))

def startsLibraryImport (trees : List Tree) : Bool :=
  startsWord "extern" trees && startsWord "crate" (trees.drop 1)

def startsForeignItems (trees : List Tree) : Bool :=
  startsWord "extern" (dropWord "unsafe" trees)

namespace Reader

def staticItem (nested : Nested) : Reader Bool := do
  word "static"
  wordIf "mut"
  let _ ← name
  let isTyped ← punct? ':'
  if isTyped then do
    let _ ← nested.type true
  if isTyped && (← punct? ';') then pure true
  else do
    punct '='
    nested.value
    punct ';'
    pure (!isTyped)

def moduleItem (nested : Nested) : Reader Unit := do
  wordIf "unsafe"
  word "mod"
  nameOr ["try"]
  if !(← punct? ';') then
    group .brace do
      innerAttributes nested
      untilEnd nested.item

def macroItem : Reader Unit := do
  word "macro"
  let _ ← name
  if ← sees (startsGroup .parenthesis) then skip 1
  guard (startsGroup .brace)
  skip 1

def markedItem (nested : Nested) : Reader Bool := do
  let isVisible ← visibility
  if ← sees (startsSignature false) then do pure (!(← function nested))
  else if ← sees startsLibraryImport then do
    libraryImport
    pure false
  else if ← sees startsForeignItems then do
    if isVisible then failure
    foreignItems nested
    pure false
  else if ← sees (startsWord "use") then importItem
  else if ← sees (startsWord "static") then staticItem nested
  else if ← sees (startsWord "const") then do
    let form ← constantItem nested
    pure (!form.isPlain || !form.hasValue)
  else if ← sees (fun trees => startsWord "mod" (dropWord "unsafe" trees)) then do
    moduleItem nested
    pure false
  else if ← sees (startsWord "type") then do
    let form ← typeAlias nested .early
    pure (form.hasBounds || !form.hasValue)
  else if ← sees fun trees => startsOneOf ["struct", "enum"] trees || startsUnion trees then do
    let _ ← typeItem nested
    pure false
  else if ← sees (fun trees => startsTrait (dropWord "unsafe" trees)) then do
    traitItem nested
    pure false
  else if ← sees startsImplementation then do
    let isUnfinished ← implementation nested
    pure (isVisible || isUnfinished)
  else if ← sees (startsWord "macro") then do
    macroItem
    pure true
  else do
    guard fun trees => !isVisible && startsCallPath trees
    itemCall true
    pure false

def item (nested : Nested) : Reader Unit := do
  let _ ← asWritten id do
    let _ ← attributes nested
    markedItem nested

end Reader

end RequestParams.Declaration
