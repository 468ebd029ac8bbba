import ReviewRouter.Deployment
import ReviewRouter.Html
import ReviewRouter.Screen

/-!
# The page

* `link` — a link to an address inside the application;
* `Screen.page` — the body of the page for what is on display;
* `header` — the links on top of the page and the greeting for new users;
* `page` — the whole page.
-/

namespace ReviewRouter

/-- An element with the given style classes. -/
def block (tag style : Text) (children : List Html) : Html :=
  .element tag [("class", style)] children

/-- A link to an address inside the application. -/
def link (d : Deployment) (address label : Text) : Html :=
  .element "a" [("href", d.absolute address)] [.text label]

/-- What is on display. -/
def Screen.page (s : Screen) : Html :=
  match s with
  | .loading =>
    block "div" "flex items-center justify-center min-h-screen"
      [block "span" "loading loading-spinner loading-lg" []]
  | .view v =>
    block "main" "container mx-auto p-4"
      [block "h1" "text-2xl font-bold" [.text v.name],
        block "p" "font-mono text-sm opacity-70" [.text v.address]]
  | .error status =>
    block "div" "flex items-center justify-center min-h-screen bg-base-200"
      [block "div" "text-center"
        [block "h1" "text-6xl font-bold text-error" [.text (Numeral.ofNat status)],
          block "p" "text-xl mt-4"
            [.text (if status = 404 then "页面未找到" else "页面加载失败")]]]

/-- The top of the page. -/
def header (d : Deployment) (justRegistered : Bool) : List Html :=
  let links := block "nav" "navbar bg-base-100 shadow"
    [link d "/dashboard/self" "我的面板",
      link d "/q/status:open" "打开的变更",
      link d "/admin/repos" "仓库"]
  let greeting := block "div" "alert alert-success" [.text "注册完成，欢迎使用"]
  if justRegistered then [links, greeting] else [links]

/-- The whole page. -/
def page (d : Deployment) (justRegistered : Bool) (s : Screen) : Text :=
  Html.renderAll (header d justRegistered ++ [s.page])

end ReviewRouter
