/-!
# Names shared with the client

An unmodified client looks these names up in the page, so they are emitted exactly as written.
-/

namespace AjaxCallback.Client

def resultVariable : String := "wcall"

def showFunction : String := "Wicket.showIncrementally"

def hideFunction : String := "Wicket.hideIncrementally"

def throttleFunction : String := "wicketThrottler.throttle"

def getFunction : String := "wicketAjaxGet"

def lookupFunction : String := "Wicket.$"

def eventReference : String := "wicket-event.js"

def ajaxReference : String := "wicket-ajax.js"

def debugReference : String := "wicket-ajax-debug.js"

def debugSwitchId : String := "wicket-ajax-debug-enable"

def debugSwitch : String := "wicketAjaxDebugEnable=true;"

def baseUrlId : String := "wicket-ajax-base-url"

def showIndicator (id : String) : String := showFunction ++ "('" ++ id ++ "');"

def hideIndicator (id : String) : String := hideFunction ++ "('" ++ id ++ "');"

/-- A GET call for `url` that still lacks its trailing arguments. -/
def getCall (url : String) : String := getFunction ++ "('" ++ url ++ "'"

def elementExists (markupId : String) : String := lookupFunction ++ "('" ++ markupId ++ "') != null"

def baseUrlStatement (escapedUrl : String) : String :=
  "Wicket.Ajax.baseUrl=\"" ++ escapedUrl ++ "\";"

def cancelEvent : String := "return !" ++ resultVariable ++ ";"

end AjaxCallback.Client
