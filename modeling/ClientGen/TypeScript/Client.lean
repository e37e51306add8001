import ClientGen.GeneratedFile
import ClientGen.TypeScript.Module

/-!
The parts of a client that do not depend on its operations: the function that sends requests, and
the index of all modules.
-/

set_option autoImplicit false

namespace ClientGen.TypeScript

def clientHead : String := r#"// Generated by swg. Do not edit.

export interface ClientConfig {
  baseUrl: string;
  headers: Record<string, string>;
  fetch: typeof fetch;
}

export interface RequestOptions {
  method: string;
  url: string;
  query?: Record<string, unknown>;
  headers?: Record<string, unknown>;
  form?: Record<string, unknown>;
  body?: unknown;
  contentType?: string;
}

export class ApiError extends Error {
  constructor(
    public readonly status: number,
    public readonly body: unknown,
  ) {
    super(`request failed with status ${status}`);
    this.name = "ApiError";
  }
}

const config: ClientConfig = {
  baseUrl: ""#

def clientTail : String := r#"",
  headers: {},
  fetch: (input, init) => globalThis.fetch(input, init),
};

/** Override the base URL, default headers or fetch implementation. */
export function configure(options: Partial<ClientConfig>): void {
  Object.assign(config, options);
}

function buildUrl(path: string, query?: Record<string, unknown>): string {
  const search = new URLSearchParams();
  for (const [key, value] of Object.entries(query ?? {})) {
    if (value === undefined || value === null) continue;
    for (const item of Array.isArray(value) ? value : [value]) {
      search.append(key, String(item));
    }
  }
  const qs = search.toString();
  return config.baseUrl + path + (qs ? `?${qs}` : "");
}

function buildBody(options: RequestOptions): BodyInit | undefined {
  if (options.form) {
    const urlencoded = options.contentType?.includes("x-www-form-urlencoded");
    const form = urlencoded ? new URLSearchParams() : new FormData();
    for (const [key, value] of Object.entries(options.form)) {
      if (value === undefined || value === null) continue;
      if (!urlencoded && value instanceof Blob) {
        (form as FormData).append(key, value);
      } else {
        form.append(key, String(value));
      }
    }
    return form;
  }
  if (options.body === undefined) return undefined;
  if (options.body instanceof Blob) return options.body;
  return JSON.stringify(options.body);
}

export async function request<T>(options: RequestOptions, init?: RequestInit): Promise<T> {
  const headers: Record<string, string> = { ...config.headers };
  for (const [key, value] of Object.entries(options.headers ?? {})) {
    if (value !== undefined && value !== null) headers[key] = String(value);
  }
  if (options.body !== undefined && !options.form) {
    headers["Content-Type"] = options.contentType ?? "application/json";
  }

  const response = await config.fetch(buildUrl(options.url, options.query), {
    ...init,
    method: options.method,
    headers: { ...headers, ...(init?.headers as Record<string, string> | undefined) },
    body: buildBody(options),
  });

  const text = await response.text();
  const isJson = response.headers.get("Content-Type")?.includes("json") ?? false;
  const payload: unknown = text && isJson ? JSON.parse(text) : text || undefined;
  if (!response.ok) {
    throw new ApiError(response.status, payload);
  }
  return payload as T;
}"#

def withoutTrailingSlashes (text : String) : String :=
  String.ofList (text.toList.reverse.dropWhile (· = '/')).reverse

def clientFile (baseUrl : String) : String :=
  clientHead ++ withoutTrailingSlashes baseUrl ++ clientTail

def indexFile (modules : List String) : String :=
  "// Generated by swg. Do not edit.\nexport * from \"./client\";\n" ++
    "export * from \"./definitions\";\n" ++
    String.join (modules.map fun name => "export * from \"./" ++ name ++ "\";\n")

def Module.file (module : Module) : GeneratedFile := ⟨module.name ++ ".ts", module.render⟩

def modules (definitions : Definitions) (endpoints : Entries Endpoint) : List Module :=
  (Endpoint.byTag endpoints).map fun group =>
    Module.ofEndpoints (definitions.names.map Names.base) group.1 group.2

def isWritableClient (definitions : Definitions) (endpoints : Entries Endpoint) : Bool :=
  (definitions.entries.all fun entry => Declaration.isWritableDefinition entry.2) &&
    (Endpoint.byTag endpoints).all fun group =>
      isWritableModule (definitions.names.map Names.base) group.2

def definitionFiles (title : String) (definitions : Definitions) : List GeneratedFile :=
  [⟨"definitions.ts", definitionsFile title definitions⟩]

/-- The files that send requests: the client, the modules and the index. -/
def actionFiles (baseUrl : String) (definitions : Definitions) (endpoints : Entries Endpoint) :
    List GeneratedFile :=
  let found := modules definitions endpoints
  ⟨"client.ts", clientFile baseUrl⟩ :: found.map Module.file ++
    [⟨"index.ts", indexFile (found.map Module.name)⟩]

end ClientGen.TypeScript
