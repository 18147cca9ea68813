import VulkanPrefill.Text.ControlSequences
import VulkanPrefill.Text.EndedLine

/-!
# Help

The page that explains the options. It is laid out for a terminal, where headings and names stand
out, and written as what a terminal shows of it, without control sequences. It gives the value of
the environment variable that stands in for the SDK root, or nothing after the equals sign when it
is not set. That value is part of the page like any other text: its line breaks continue below the
explanation, and its control sequences are not shown either.
-/

namespace VulkanPrefill.Command

def heading (s : String) : String :=
  "\x1b[1m\x1b[4m" ++ s ++ "\x1b[0m"

def bold (s : String) : String :=
  "\x1b[1m" ++ s ++ "\x1b[0m"

/-- The column in which the explanations of the options start. -/
def explanationColumn : Nat := 25

/-- An explanation all of whose lines start in the column of the first. -/
def explanation (s : String) : String :=
  .ofList (s.toList.flatMap fun c =>
    if c = '\n' then '\n' :: List.replicate explanationColumn ' ' else [c])

def helpLines (envSdk : Option String) : List String := [
  "Generates sType-prefilled initializers from vulkan_core.h",
  "",
  heading "Usage:" ++ " " ++ bold "vk_initgen" ++ " [OPTIONS]",
  "",
  heading "Options:",
  "      " ++ bold "--sdk" ++ " <SDK>        " ++
    explanation ("Vulkan SDK root; the header is read from " ++
      "Include/vulkan/vulkan_core.h below it [env: VULKAN_SDK=" ++ envSdk.getD "" ++ "]"),
  "      " ++ bold "--header" ++ " <HEADER>  " ++
    explanation "Header to scan instead of the SDK's vulkan_core.h",
  "  " ++ bold "-o" ++ ", " ++ bold "--output" ++ " <OUTPUT>  " ++
    explanation "Write the initializers to this file instead of stdout",
  "  " ++ bold "-v" ++ ", " ++ bold "--verbose" ++ "...       " ++
    explanation "Log more to stderr (-v info, -vv debug, -vvv trace)",
  "  " ++ bold "-h" ++ ", " ++ bold "--help" ++ "             " ++ explanation "Print help"]

def help (envSdk : Option String) : String :=
  Text.visible (Text.ofLines (helpLines envSdk))

end VulkanPrefill.Command
