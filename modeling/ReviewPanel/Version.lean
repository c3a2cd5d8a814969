/-! # The version of the library -/
namespace ReviewPanel

def version : String := "0.1.0"

end ReviewPanel
