/-!
# The runtime

Nested data is handled by calls inside calls, and the runtime bounds how many there can be.  How
many that leaves for some data depends on the calls in which the program itself stands, so the
bounds are parameters.
-/

namespace QueryBridge

class Runtime where
  /-- The levels of arrays and objects in a document that can be read. -/
  readingLevels : Nat
  /-- The levels of arrays and objects in a value that can be written as a document. -/
  writingLevels : Nat
  /-- Documents are read in more calls than they are written in. -/
  reading_le_writing : readingLevels ≤ writingLevels
  /-- The calls inside the one that shows a value of a configuration. -/
  showingCalls : Nat
  /-- The calls inside each other for the lists and tables around a TOML value.  Those that any
  scalar takes come on top. -/
  tomlCalls : Nat
  /-- The levels of nodes in a YAML document for which the calls suffice whatever the nodes are,
  an alias counting as the node that it stands for. -/
  yamlLevels : Nat

end QueryBridge
