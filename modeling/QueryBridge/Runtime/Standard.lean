import QueryBridge.Runtime

/-!
# The standard runtime

The runtime has room for a thousand calls inside each other.
-/

namespace QueryBridge

instance Runtime.standard : Runtime where
  readingLevels := 970
  writingLevels := 975
  reading_le_writing := by decide
  showingCalls := 960
  tomlCalls := 960
  yamlLevels := 450

end QueryBridge
