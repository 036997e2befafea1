/-!
# Error codes of a display

A display answers a failed call with a sentinel; the code is kept for `lastError`.
`ErrorCode.text` names the codes of the standard range and writes others in hexadecimal.
-/

namespace FireflyOverlay

structure ErrorCode where
  value : Nat
deriving DecidableEq, Repr

namespace ErrorCode

def success : ErrorCode := ⟨0x3000⟩
def notInitialized : ErrorCode := ⟨0x3001⟩
def badAttribute : ErrorCode := ⟨0x3004⟩
def badConfig : ErrorCode := ⟨0x3005⟩
def badContext : ErrorCode := ⟨0x3006⟩
def badDisplay : ErrorCode := ⟨0x3008⟩
def badNativeWindow : ErrorCode := ⟨0x300b⟩
def badSurface : ErrorCode := ⟨0x300d⟩
def contextLost : ErrorCode := ⟨0x300e⟩

/-- The names of the codes from `success` on. -/
def names : List String :=
  ["EGL_SUCCESS", "EGL_NOT_INITIALIZED", "EGL_BAD_ACCESS", "EGL_BAD_ALLOC", "EGL_BAD_ATTRIBUTE",
   "EGL_BAD_CONFIG", "EGL_BAD_CONTEXT", "EGL_BAD_CURRENT_SURFACE", "EGL_BAD_DISPLAY",
   "EGL_BAD_MATCH", "EGL_BAD_NATIVE_PIXMAP", "EGL_BAD_NATIVE_WINDOW", "EGL_BAD_PARAMETER",
   "EGL_BAD_SURFACE", "EGL_CONTEXT_LOST"]

def hexadecimal (n : Nat) : String := "0x" ++ String.ofList (Nat.toDigits 16 n)

def text (c : ErrorCode) : String :=
  if c.value < 0x3000 then hexadecimal c.value
  else (names[c.value - 0x3000]?).getD (hexadecimal c.value)

end ErrorCode
end FireflyOverlay
