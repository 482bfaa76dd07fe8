import DocSpace.Text.Charset.Pairs
import DocSpace.Text.Charset.Traditional.Table

set_option autoImplicit false

namespace DocSpace.Text.Traditional

def rows : Rows := .ofList traditionalRows

def extra : Rows := .ofList traditionalExtraRows

def extended? (code : Nat) : Option Char := extra.get? code <|> rows.get? code

end DocSpace.Text.Traditional
