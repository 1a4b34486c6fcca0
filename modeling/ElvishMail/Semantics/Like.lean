import Mathlib.Data.List.Infix

/-!
# Patterns of a database

`LIKE` over the symbols of a text. One sign of a pattern stands for any text, one for any symbol,
and one takes the symbol behind it as it is. A pattern that ends with the latter matches nothing.
-/

namespace Semantics

variable {Symbol : Type*} [DecidableEq Symbol]

structure LikeSigns (Symbol : Type*) where
  anyText : Symbol
  anySymbol : Symbol
  escape : Symbol

/-- `text LIKE pattern`, where the next sign is taken as it is if `quoted`. -/
def likeFrom (signs : LikeSigns Symbol) : Bool → List Symbol → List Symbol → Bool
  | quoted, [], text => !quoted && text.isEmpty
  | quoted, sign :: pattern, text =>
    if quoted = true then text.head? == some sign && likeFrom signs false pattern text.tail
    else if sign = signs.anyText then text.tails.any (likeFrom signs false pattern)
    else if sign = signs.anySymbol then !text.isEmpty && likeFrom signs false pattern text.tail
    else if sign = signs.escape then likeFrom signs true pattern text
    else text.head? == some sign && likeFrom signs false pattern text.tail

/-- `text LIKE pattern`. -/
def like (signs : LikeSigns Symbol) (pattern text : List Symbol) : Bool :=
  likeFrom signs false pattern text

end Semantics
