set_option autoImplicit false

namespace DocSpace

def version : String := "0.1.0"

end DocSpace
