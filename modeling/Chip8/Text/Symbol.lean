import Chip8.Text.Cluster
import Chip8.Text.Width

/-!
# Symbols

A symbol is a cluster of characters together with the number of columns that it takes: none for a
sign that shows nothing by itself, two for the wide characters of East Asian scripts and for
pictures, and one for most others. A text may take fewer columns than its symbols do, because a
shape can stand for letters of several clusters.
-/

namespace Chip8.Text

/-- A cluster and the number of columns that it takes. -/
structure Symbol where
  chars : List Char
  width : Nat
deriving DecidableEq

namespace Symbol

/-- The symbol of a cluster. -/
def ofCluster (cluster : List Char) : Symbol := { chars := cluster, width := Text.width cluster }

/-- A character that takes one column by itself. -/
def plain (c : Char) : Symbol := { chars := [c], width := 1 }

end Symbol

/-- The symbols of a text. -/
def symbols (text : List Char) : List Symbol := (clusters text).map Symbol.ofCluster

end Chip8.Text
