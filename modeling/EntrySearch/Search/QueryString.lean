import EntrySearch.Json.Reader
import EntrySearch.Search.Parameters
import EntrySearch.Text.Pieces
import EntrySearch.Text.Utf8

/-!
# Query strings

Parameters in the query part of an address: items `key=value` between ampersands, with a plus sign
for a space and percent signs before the octets of other characters. An item without an equals sign
is a key with an empty value.
-/

namespace EntrySearch.QueryString

/-- The octets that a text stands for: two hexadecimal digits after a percent sign are one octet,
anything else stands for itself. -/
def octets : List Char → List Nat
  | '%' :: a :: b :: rest =>
    match Json.hexValue? a, Json.hexValue? b with
    | some high, some low => (16 * high + low) :: octets rest
    | _, _ => Text.Utf8.encodeChar '%' ++ octets (a :: b :: rest)
  | c :: rest => Text.Utf8.encodeChar c ++ octets rest
  | [] => []

/-- A plus sign stands for a space. -/
def spaced (c : Char) : Char :=
  if c = '+' then ' ' else c

/-- The text that a key or a value stands for. -/
def decode (cs : List Char) : String :=
  String.ofList (Text.Utf8.decode (octets (cs.map spaced)))

/-- The key and the value of an item. -/
def item (cs : List Char) : String × String :=
  let (key, value) := Text.cutAt '=' cs
  (decode key, decode (value.getD []))

/-- The items of a query string, after any question marks at its front. -/
def items (text : String) : List (String × String) :=
  let parts := Text.pieces (· = '&') (text.toList.dropWhile (· = '?'))
  (parts.filter (!·.isEmpty)).map item

/-- Add items to parameters. -/
def addItems (parameters : Parameters) (items : List (String × String)) : Parameters :=
  items.foldl (fun known item => Entries.appendAt item.1 [item.2] known) parameters

/-- Read a query string. -/
def read (text : String) : Parameters :=
  addItems [] (items text)

/-- Split an option `key=value`; without an equals sign the value is empty. -/
def ofOption (text : String) : String × String :=
  let (key, value) := Text.cutAt '=' text.toList
  (String.ofList key, String.ofList (value.getD []))

/-- The parameters of a query string, if there is one, followed by those of options. -/
def collect (options : List String) (query : Option String) : Parameters :=
  addItems (read (query.getD "")) (options.map ofOption)

end EntrySearch.QueryString
